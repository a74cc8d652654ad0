import FluentQuery.Proofs.Predicate.Alike
import FluentQuery.Proofs.Predicate.Truth

/-! The negation of a filter. It compiles just when the filter does, binds the same values, and has
the opposite truth: where a null makes the filter unknown, its negation is unknown too. SQL has a
symbol of its own for some negations, and truth is assigned to what these negate. -/
namespace FluentQuery

@[simp] theorem Truth.not_not (a : Truth) : a.not.not = a := by
  cases a <;> rfl

namespace Predicate

/-- The symbols that negate another one, each with that other. -/
def opposites : List (Text × Text) :=
  [("!=", "="), ("NOT LIKE", "LIKE"), ("NOT ILIKE", "ILIKE")]

/-- Truth of all comparisons, given that of the positive ones. -/
def signed (assigned : Predicate → Truth) : Predicate → Truth
  | .compare column symbol value cast =>
    match opposites.lookup symbol with
    | some positive => (assigned (.compare column positive value cast)).not
    | none => assigned (.compare column symbol value cast)
  | .state column keyword true => (assigned (.state column keyword false)).not
  | .among column values true => (assigned (.among column values false)).not
  | p => assigned p

/-- The second predicate is the negation of the first, with the same parameters. -/
structure Opposed (p n : Predicate) : Prop where
  bound : ∀ params, (n.build params).2 = (p.build params).2
  contrary : ∀ assigned, n.truth (signed assigned) = (p.truth (signed assigned)).not

namespace Opposed

theorem symm {p n : Predicate} (opposed : Opposed p n) : Opposed n p where
  bound params := (opposed.bound params).symm
  contrary assigned := by rw [opposed.contrary, Truth.not_not]

theorem not (p : Predicate) : Opposed p (.not p) := ⟨fun _ => rfl, fun _ => rfl⟩

variable (column : Text)

theorem compare {symbol opposite : Text} (listed : (opposite, symbol) ∈ opposites) (v : Json)
    (cast : Option Text) :
    Opposed (.compare column symbol v cast) (.compare column opposite v cast) := by
  refine ⟨fun _ => rfl, fun assigned => ?_⟩
  have signs : ∀ pair ∈ opposites,
      opposites.lookup pair.1 = some pair.2 ∧ opposites.lookup pair.2 = none := by decide
  obtain ⟨negative, positive⟩ := signs _ listed
  simp only [truth, signed, negative, positive]

theorem state (keyword : Text) :
    Opposed (.state column keyword false) (.state column keyword true) :=
  ⟨fun _ => rfl, fun _ => rfl⟩

/-- Nothing is among no values, and everything is not. -/
theorem inList (values : List Json) :
    Opposed (.inList column values) (.notInList column values) := by
  unfold Predicate.inList Predicate.notInList
  cases values with
  | nil => exact ⟨fun _ => rfl, fun _ => rfl⟩
  | cons v rest => exact ⟨fun _ => rfl, fun _ => rfl⟩

end Opposed

end Predicate

open Predicate

/-- A filter and its negation are refused for the same cause, or compile to opposite predicates. -/
theorem Filter.agree_negation (config : Text) (f : Filter) :
    Agree Opposed (f.predicate config) (f.negation config) := by
  have wrapped : Agree Opposed (f.predicate config) ((f.predicate config).map .not) := by
    cases f.predicate config with
    | error cause => exact .error cause
    | ok p => exact .ok (.not p)
  cases named : f.quotedColumn with
  | error cause =>
    rw [predicate, negation, named]
    exact .error cause
  | ok column =>
    have known (word : Except Invalid Text) :
        Agree Opposed (word.map (.state column · false)) (word.map (.state column · true)) :=
      (Agree.refl (fun _ => rfl) word).map fun word _ same => same ▸ .state column word
    have listed (values : Except Invalid (List Json)) :
        Agree Opposed (values.map (.inList column)) (values.map (.notInList column)) :=
      (Agree.refl (fun _ => rfl) values).map fun values _ same => same ▸ .inList column values
    rw [negation, named, ok_bind]
    cases op : f.op
    case gt | gte | lt | lte | contains | containedBy | overlaps | search => exact wrapped
    -- these have an opposite of their own
    all_goals
      rw [predicate, named, ok_bind]
      simp only [op]
    case is => exact known _
    case among => exact listed _
    case neq => exact .ok (.symm (.compare column (by decide) f.value none))
    case eq | like | ilike => exact .ok (.compare column (by decide) f.value none)

/-- The negation of a filter stands for its complement: it is refused just when the filter is, and
for the same cause; otherwise it binds the same values from any number on, and it is true, false or
unknown where the filter is false, true or unknown. -/
theorem Filter.negation_complements (config : Text) (f : Filter) :
    (∀ cause, f.negation config = .error cause ↔ f.predicate config = .error cause) ∧
    ∀ p, f.predicate config = .ok p → ∃ n, f.negation config = .ok n ∧
      (∀ start, (n.build (.startingAt start)).2 = (p.build (.startingAt start)).2) ∧
      ∀ assigned, n.truth (signed assigned) = (p.truth (signed assigned)).not := by
  have agree := f.agree_negation config
  refine ⟨fun cause => (agree.error_iff cause).symm, fun p compiles => ?_⟩
  rw [compiles] at agree
  obtain ⟨n, negated, opposed⟩ := agree.exists_ok
  exact ⟨n, negated, fun start => opposed.bound _, opposed.contrary⟩

end FluentQuery
