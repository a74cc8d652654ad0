import FluentQuery.Filter.Logic

/-! The filters of one statement: plain ones, or-expressions and negated ones, each kind in the
order given. Together they are one conjunction, plain filters first and negated ones last. -/
namespace FluentQuery

/-- A negated filter; an unknown operator stands for equality. -/
inductive Negated where
  | known (filter : Filter)
  | fallback (filter : Filter)
deriving DecidableEq

namespace Negated

/-- A text operand is read by the grammar of its operator, and kept if that fails. -/
def ofOperator (column name : Text) (value : Json) : Negated :=
  match Operator.parse? name with
  | some op =>
    let operand := match value with
      | .str raw => match Operand.parse op raw with
        | .ok read => read
        | .error _ => value
      | other => other
    .known ⟨column, op, operand⟩
  | none => .fallback ⟨column, .eq, value⟩

def predicate (config : Text) : Negated → Except Invalid Predicate
  | .known f => f.negation config
  | .fallback f => (f.predicate config).map .not

end Negated

structure FilterSet where
  plain : List Filter
  groups : List Text
  negated : List Negated
deriving DecidableEq

/-- A compiled predicate; `sql` is empty when there is no filter. -/
structure WhereClause where
  sql : Text
  params : List Json
  next : Nat

namespace FilterSet

def empty : FilterSet := ⟨[], [], []⟩

def isEmpty (s : FilterSet) : Bool :=
  s.plain.isEmpty && s.groups.isEmpty && s.negated.isEmpty

def push (s : FilterSet) (f : Filter) : FilterSet :=
  { s with plain := s.plain ++ [f] }

def pushAll (s : FilterSet) (fs : List Filter) : FilterSet :=
  { s with plain := s.plain ++ fs }

def pushGroup (s : FilterSet) (raw : Text) : FilterSet :=
  { s with groups := s.groups ++ [raw] }

def pushNegated (s : FilterSet) (n : Negated) : FilterSet :=
  { s with negated := s.negated ++ [n] }

/-- The conjunction of all filters, or the first fault in their order. -/
def predicate (config : Text) (s : FilterSet) : Except Invalid Predicate := do
  let plain ← s.plain.mapM (Filter.predicate config)
  let groups ← s.groups.mapM (Logic.parse config)
  let negated ← s.negated.mapM (Negated.predicate config)
  .ok (.all (plain ++ groups ++ negated))

/-- The SQL of the conjunction, and the parameters after its own. -/
def build (config : Text) (s : FilterSet) (params : Params) : Except Invalid (Text × Params) :=
  (s.predicate config).map fun p => p.build params

/-- The clause with placeholders from `start` on, which is a number without bound, as are those of
`Params`. -/
def whereClause (config : Text) (start : Nat) (s : FilterSet) : Except Invalid WhereClause :=
  (s.build config (.startingAt start)).map fun (sql, params) => ⟨sql, params.values, params.next⟩

end FilterSet

end FluentQuery
