import FluentQuery.Predicate

/-! The truth of a predicate under an assignment of truth values to its comparisons, with the third
value that SQL gives to a comparison with null, and what is left of a tree without its empty
groups. -/
namespace FluentQuery

inductive Truth where
  | no
  | unknown
  | yes
deriving DecidableEq, Repr

namespace Truth

def not : Truth → Truth
  | .no => .yes
  | .unknown => .unknown
  | .yes => .no

def and : Truth → Truth → Truth
  | .no, _ => .no
  | .yes, b => b
  | .unknown, .no => .no
  | .unknown, _ => .unknown

def or : Truth → Truth → Truth
  | .yes, _ => .yes
  | .no, b => b
  | .unknown, .yes => .yes
  | .unknown, _ => .unknown

def all (values : List Truth) : Truth :=
  values.foldr and .yes

def any (values : List Truth) : Truth :=
  values.foldr or .no

@[simp] theorem and_yes (a : Truth) : a.and .yes = a := by
  cases a <;> rfl

@[simp] theorem or_no (a : Truth) : a.or .no = a := by
  cases a <;> rfl

@[simp] theorem all_singleton (a : Truth) : all [a] = a :=
  and_yes a

@[simp] theorem any_singleton (a : Truth) : any [a] = a :=
  or_no a

end Truth

namespace Predicate

mutual

/-- Membership in an empty list is false whatever the column holds. -/
def truth (assigned : Predicate → Truth) : Predicate → Truth
  | .all parts => .all (truths assigned parts)
  | .any parts => .any (truths assigned parts)
  | .not inner => (inner.truth assigned).not
  | .among _ [] negated => if negated then .yes else .no
  | .always => .yes
  | .never => .no
  | p => assigned p

def truths (assigned : Predicate → Truth) : List Predicate → List Truth
  | [] => []
  | p :: rest => p.truth assigned :: truths assigned rest

end

mutual

/-- The tree without empty groups and negations of them; nothing if it is empty itself. -/
def prune : Predicate → Option Predicate
  | .all parts => if pruneAll parts = [] then none else some (.all (pruneAll parts))
  | .any parts => if pruneAll parts = [] then none else some (.any (pruneAll parts))
  | .not inner => inner.prune.map .not
  | p => some p

def pruneAll : List Predicate → List Predicate
  | [] => []
  | p :: rest =>
    match p.prune with
    | some kept => kept :: pruneAll rest
    | none => pruneAll rest

end

end Predicate

end FluentQuery
