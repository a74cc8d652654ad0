import FluentQuery.Json

/-! The parameters of one statement and their numbers. Every part of a statement pushes into the
same list, so the placeholders run on from one part to the next. -/
namespace FluentQuery

/-- Parameters numbered from `offset + 1`. -/
structure Params where
  offset : Nat
  values : List Json
deriving DecidableEq

namespace Params

def empty : Params := ⟨0, []⟩

/-- No parameters yet; the first one gets the number `start`. Numbers have no bound here; those of a
machine word are the same as long as `start` and the number of parameters fit in it together. -/
def startingAt (start : Nat) : Params := ⟨start - 1, []⟩

/-- The number that the next parameter gets. -/
def next (p : Params) : Nat :=
  p.offset + p.values.length + 1

def push (p : Params) (value : Json) : Params :=
  { p with values := p.values ++ [value] }

/-- Takes over the parameters of a list that was built to continue this one. -/
def extend (p q : Params) : Params :=
  { p with values := p.values ++ q.values }

/-- The placeholder that the next parameter gets. -/
def placeholder (p : Params) : Text :=
  '$' :: Nat.toDigits 10 p.next

/-- The placeholder of a value that is pushed next; an object is cast. -/
def placeholderFor (p : Params) (v : Json) : Text :=
  p.placeholder ++ if v.isObject then ("::jsonb" : Text) else []

@[simp] theorem next_push (p : Params) (v : Json) : (p.push v).next = p.next + 1 := by
  simp [next, push]; omega

@[simp] theorem values_push (p : Params) (v : Json) : (p.push v).values = p.values ++ [v] := rfl

@[simp] theorem next_startingAt (start : Nat) : (startingAt start).next = max start 1 := by
  simp [next, startingAt]; omega

end Params

end FluentQuery
