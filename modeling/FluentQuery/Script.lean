import FluentQuery.Executor

/-! An executor that follows a script: the first rule whose text occurs in a statement says how the
statement ends. Everything that is asked of it is recorded. -/
namespace FluentQuery

/-- What to do with statements that hold a text. -/
structure Rule (α : Type) where
  mark : Text
  /-- The rule goes when it is used. -/
  once : Bool
  effect : α

namespace Rule

variable {α : Type}

/-- The effect of the first rule that applies, and the rules that stay. -/
def take? (sql : Text) : List (Rule α) → Option α × List (Rule α)
  | [] => (none, [])
  | rule :: rest =>
    if Text.contains rule.mark sql then
      (some rule.effect, if rule.once then rest else rule :: rest)
    else
      let (effect, rest) := take? sql rest
      (effect, rule :: rest)

end Rule

namespace Script

structure Effect where
  delay : Duration
  error : Option Error
  rows : List Row
  affected : Nat

def Effect.none : Effect := ⟨⟨0⟩, .none, [], 0⟩

/-- How a statement was asked for. -/
inductive Way where
  | query
  | execute
  | batch
  | close
deriving DecidableEq, Repr

structure Record where
  way : Way
  statement : Statement
deriving DecidableEq

structure State where
  rules : List (Rule Effect)
  records : List Record

def State.record (s : State) (r : Record) : State :=
  { s with records := s.records ++ [r] }

/-- Answers with what the rule says, unless it says an error. -/
def answer {α : Type} (way : Way) (statement : Statement) (value : Effect → α) (s : State) :
    Reply State α × State :=
  let (effect, rules) := Rule.take? statement.sql s.rules
  let effect := effect.getD .none
  let result : Except Error α := match effect.error with
    | some e => .error e
    | .none => .ok (value effect)
  (.waiting effect.delay id fun _ => .answered [] result,
    { s with rules := rules }.record ⟨way, statement⟩)

def executor : Executor State where
  query statement := answer .query statement Effect.rows
  execute statement := answer .execute statement Effect.affected
  batch sql := answer .batch ⟨sql, []⟩ fun _ => ()
  close s := s.record ⟨.close, ⟨[], []⟩⟩

end Script

end FluentQuery
