import FluentQuery.Query.Call
import FluentQuery.Proofs.Query.Asked

/-! No text of a caller escapes into SQL. Whatever tables, select expressions, filters, payloads and
stored functions are called, a statement ends outside quoted identifiers, and outside of them it has
nothing that opens a string, a comment or a further statement. -/
namespace FluentQuery

namespace Sql

/-- Scanned from left to right, the text ends outside quoted identifiers; outside of them stands no
semicolon, apostrophe, backslash or start of a comment, and nowhere NUL. -/
structure Contained (t : Text) : Prop where
  noNul : Char.ofNat 0 ∉ t
  closed : ∃ u, outside? false t = some u ∧ ';' ∉ u ∧ Char.ofNat 39 ∉ u ∧ '\\' ∉ u ∧
    ¬ ("--" : Text) <:+: u ∧ ¬ ("/*" : Text) <:+: u

theorem Fragment.contained {filtered : Bool} {t : Text} {ns : List Nat}
    (fragment : Fragment filtered t ns) : Contained t := by
  obtain ⟨u, scanned, -, harmless, -⟩ := fragment.bare
  have absent : ∀ c ∈ forbidden, c ∉ u := fun c bad member => by
    have kept := harmless c member
    rw [isHarmless, decide_eq_true_iff] at kept
    exact kept bad
  refine ⟨fragment.noNul, u, scanned, absent _ (by decide), absent _ (by decide),
    absent _ (by decide), fun comment => ?_, fun comment => ?_⟩
  · exact absent '-' (by decide) (comment.subset List.mem_cons_self)
  · exact absent '/' (by decide) (comment.subset List.mem_cons_self)

end Sql

theorem Statement.IsCompiled.contained {config : Config} {s : Statement}
    (compiled : s.IsCompiled config) : Sql.Contained s.sql := by
  obtain ⟨template, compiles⟩ := compiled
  exact (compiles.fragment rfl).contained

/-- In every statement that is compiled, and in every one that a query or the call of a stored
function sends, whatever is answered, the text of the caller is contained in quotes. -/
theorem statements_contained (config : Config) :
    (∀ made template s, Compiles config made template → made = .ok s → Sql.Contained s.sql) ∧
    (∀ q s, Query.toSql q config.searchConfig = .ok s → Sql.Contained s.sql) ∧
    (∀ q, (Query.perform config q).Within (Request.Asks fun s => Sql.Contained s.sql)) ∧
    ∀ name a, (Routine.call name a).Within (Request.Asks fun s => Sql.Contained s.sql) := by
  have asks : ∀ r, Request.IsCompiled config r → r.Asks fun s => Sql.Contained s.sql :=
    fun r => Request.Asks.imp fun s compiled => compiled.contained
  refine ⟨fun made template s compiles compiled => (compiles.fragment compiled).contained,
    fun q s compiled => (Query.isCompiled_toSql compiled).contained, fun q => ?_, fun name a => ?_⟩
  · exact Job.within_imp (Query.within_perform config q) asks
  · exact Job.within_imp (Routine.within_call config name a) asks

/-- A table whose name would end the statement outside quotes. -/
def oddTable : Query :=
  Query.ofTable "\"a\"\"; --\""

def oddTableStatement : Statement :=
  ⟨"SELECT * FROM \"a\"\"; --\"", []⟩

theorem contained_oddTable :
    oddTable.mainStatement Config.standard.searchConfig (some ['*']) = .ok oddTableStatement ∧
      Sql.Contained oddTableStatement.sql := by
  have compiled : oddTable.mainStatement Config.standard.searchConfig (some ['*']) =
      .ok oddTableStatement := by
    decide +kernel
  exact ⟨compiled,
    (statements_contained .standard).1 _ _ oddTableStatement (.main oddTable .star) compiled⟩

end FluentQuery
