import FluentQuery.Query.Call
import FluentQuery.Proofs.Query.Asked

/-! Placeholders are numbered through. Read from left to right, outside quoted identifiers, those of
a statement count its parameters from one on, and each stands where its value is asked for. A WHERE
clause that is built alone counts on from the number it is given. -/
namespace FluentQuery

/-- A clause that is built from a number on is the template of its predicate from there. -/
theorem FilterSet.whereClause_eq (config : Text) {start : Nat} (positive : 1 ≤ start)
    (s : FilterSet) : s.whereClause config start = (s.predicate config).map fun p =>
      ⟨p.template.text start, p.template.values, start + p.template.values.length⟩ := by
  unfold whereClause build
  cases s.predicate config with
  | error cause => rfl
  | ok p =>
    have first : (Params.startingAt start).next = start := by
      rw [Params.next_startingAt]
      omega
    have pushed (vs : List Json) : ((Params.startingAt start).pushAll vs).values = vs := rfl
    simp only [Except.map, Predicate.build_eq_fill, Params.fill, Params.next_pushAll, first, pushed]

/-- In whatever is sent for a query or for the call of a stored function, and in the SQL of a query
alone, the placeholders count the parameters and stand where the template asks for their values. -/
theorem placeholders_numbered (config : Config) :
    (∀ made template, Compiles config made template → made = template.map Template.statement ∧
      ∀ s, made = .ok s → Sql.placeholders? s.sql = some (List.range' 1 s.params.length)) ∧
    (∀ q s, Query.toSql q config.searchConfig = .ok s → s.IsCompiled config) ∧
    (∀ q, (Query.perform config q).Within (Request.Asks (Statement.IsCompiled config))) ∧
    (∀ name a, (Routine.call name a).Within (Request.Asks (Statement.IsCompiled config))) ∧
    ∀ (s : FilterSet) start clause, 1 ≤ start →
      s.whereClause config.searchConfig start = .ok clause →
      start ≤ clause.next ∧ clause.params.length = clause.next - start ∧
        Sql.placeholders? clause.sql = some (List.range' start (clause.next - start)) ∧
        ∃ p, s.predicate config.searchConfig = .ok p ∧ clause.sql = p.template.text start ∧
          clause.params = p.template.values := by
  refine ⟨fun made template compiles => ⟨compiles.eq_map, fun s compiled => ?_⟩,
    fun q s => Query.isCompiled_toSql, Query.within_perform config, Routine.within_call config, ?_⟩
  · exact (compiles.fragment compiled).placeholders?
  · intro s start clause positive built
    rw [FilterSet.whereClause_eq _ positive] at built
    obtain ⟨p, compiles, rfl⟩ := map_eq_ok_iff.1 built
    have count : start + p.template.values.length - start = p.template.values.length := by omega
    refine ⟨by simp, count.symm, ?_, p, compiles, rfl, rfl⟩
    simp only [count]
    exact (FilterSet.sound_predicate compiles start).placeholders?

def tagAnn : Query :=
  (((Query.ofTable "users").update (.value (.obj [("tags", .obj [])]))).restrict "age" .gt
    (.value (.int 5))).restrict "id" .among (.value (.arr [.int 1, .int 2]))

def tagAnnStatement : Statement :=
  ⟨"UPDATE \"users\" SET \"tags\" = $1::jsonb WHERE \"age\" > $2 AND \"id\" IN ($3, $4)",
    [.obj [], .int 5, .int 1, .int 2]⟩

theorem placeholders_tagAnn :
    Query.IsList none ∧
      tagAnn.mainStatement Config.standard.searchConfig none = .ok tagAnnStatement ∧
      Sql.placeholders? tagAnnStatement.sql = some [1, 2, 3, 4] := by
  have compiled : tagAnn.mainStatement Config.standard.searchConfig none = .ok tagAnnStatement := by
    decide +kernel
  exact ⟨.none, compiled,
    ((placeholders_numbered .standard).1 _ _ (.main tagAnn .none)).2 tagAnnStatement compiled⟩

end FluentQuery
