import FluentQuery.Filter.Set
import FluentQuery.Proofs.Predicate.Template
import FluentQuery.Proofs.Sql.Condition
import FluentQuery.Proofs.Sql.Names

/-! Trees as filters write them: columns are quoted identifiers, and operators, keywords, functions
and casts are those of the library. Every predicate that filters and or-expressions compile to is
one, and no part of it is empty. -/
namespace FluentQuery

namespace Predicate

/-- An operator that conditions can be read with. -/
def IsSymbol (t : Text) : Prop :=
  t ∈ Sql.Condition.wordOperators ∨ t ≠ [] ∧ ∀ c ∈ t, Sql.Condition.isOperatorChar c = true

def IsName (t : Text) : Prop :=
  t ≠ [] ∧ ∀ c ∈ t, Text.isAsciiWord c = true

instance (t : Text) : Decidable (IsSymbol t) :=
  inferInstanceAs (Decidable (_ ∨ _ ∧ _))

instance (t : Text) : Decidable (IsName t) :=
  inferInstanceAs (Decidable (_ ∧ _))

inductive Written : Predicate → Prop where
  | all {parts : List Predicate} (each : ∀ p ∈ parts, Written p) : Written (.all parts)
  | any {parts : List Predicate} (each : ∀ p ∈ parts, Written p) : Written (.any parts)
  | not {inner : Predicate} (negated : Written inner) : Written (.not inner)
  | compare {name column symbol : Text} {cast : Option Text}
      (quoted : Ident.quote name = .ok column) (known : IsSymbol symbol) (value : Json)
      (casts : ∀ c ∈ cast, IsName c) :
      Written (.compare column symbol value cast)
  | state {name column keyword : Text} (quoted : Ident.quote name = .ok column)
      (known : keyword ∈ Sql.Condition.keywords) (negated : Bool) :
      Written (.state column keyword negated)
  | among {name column : Text} (quoted : Ident.quote name = .ok column) (values : List Json)
      (negated : Bool) : Written (.among column values negated)
  | search {name column : Text} (quoted : Ident.quote name = .ok column) (kind : SearchKind)
      (config : Text) (query : Json) : Written (.search column kind.function config query)
  | always : Written .always
  | never : Written .never

/-! Fragments -/

theorem IsName.isWord {t : Text} (name : IsName t) : Sql.IsWord t := by
  intro c member
  have none : ∀ d ∈ ' ' :: '"' :: '$' :: Sql.forbidden, Text.isAsciiWord d = false := by decide
  have other : c ∉ ' ' :: '"' :: '$' :: Sql.forbidden := by
    intro among
    have word := name.2 c member
    rw [none c among] at word
    cases word
  obtain ⟨single, plain⟩ := not_or.1 (List.mem_cons.not.1 other)
  exact ⟨Sql.isPlain_iff.2 plain, single⟩

theorem IsSymbol.plain {t : Text} (symbol : IsSymbol t) : Sql.Plain t := by
  rcases symbol with word | ⟨filled, chars⟩
  · have plain : ∀ t ∈ Sql.Condition.wordOperators, Sql.Plain t := by decide
    exact plain t word
  · have plain : ∀ c ∈ Sql.Condition.operatorChars,
        (Sql.isPlain c = true ∧ c ≠ ' ') ∧ c ≠ 'W' := by decide
    have among : ∀ c ∈ t, c ∈ Sql.Condition.operatorChars := fun c member => by
      simpa [Sql.Condition.isOperatorChar] using chars c member
    refine Sql.IsWord.plain (fun c member => (plain c (among c member)).1) fun head => ?_
    exact (plain 'W' (among 'W' (List.mem_of_head? head))).2 rfl

namespace Written

theorem sound_operand {p : Predicate} (sound : Template.Sound false p.template) :
    Template.Sound false p.operand := by
  unfold operand
  split
  · exact sound.bracketed
  · exact sound

theorem sound_templates {parts : List Predicate}
    (each : ∀ p ∈ parts, Template.Sound false p.template) :
    ∀ T ∈ templates parts, Template.Sound false T := by
  intro T member
  rw [templates_eq] at member
  obtain ⟨p, among, rfl⟩ := List.mem_map.1 member
  exact sound_operand (each p (List.mem_filter.1 among).1)

/-- A tree as filters write it is SQL with just the placeholders of its values. -/
theorem sound {p : Predicate} (written : p.Written) : Template.Sound false p.template := by
  induction written with
  | all _ ih =>
    exact .join (by decide) (sound_templates ih)
  | any _ ih =>
    exact .join (by decide) (sound_templates ih)
  | @not inner _ ih =>
    rw [template]
    split
    · exact .nil
    · exact .plain (by decide) ih.bracketed
  | @compare name column symbol cast quoted known value casts =>
    have compared : Sql.Fragment false (column ++ " " ++ symbol) [] :=
      (Ident.fragment_quote quoted).between (by decide) (.plain known.plain)
    refine .sql (compared.append_plain (by decide)) (.value value ?_ ?_) (.value _ _)
    · cases cast with
      | none => exact .plain (by decide) .nil
      | some c => exact .plain (casts c rfl).isWord.cast .nil
    · cases cast with
      | none => exact fun _ => .nil
      | some c => exact .sql (.before (by decide) c) _
  | @state name column keyword quoted known negated =>
    have plain : ∀ t ∈ Sql.Condition.keywords, Sql.Plain t := by decide
    have named : Sql.Fragment false column [] := Ident.fragment_quote quoted
    refine .sql ?_ .nil .nil
    cases negated with
    | false => exact named.between (by decide) (.plain (plain _ known))
    | true => exact named.between (by decide) (.plain (plain _ known))
  | @among name column quoted values negated =>
    have named : Sql.Fragment false column [] := Ident.fragment_quote quoted
    rw [template]
    split
    · cases negated <;> exact .plain (by decide) .nil
    · have listed : Template.Sound false
          (Template.join ", " (values.map fun v => [.value v])) := by
        refine .join (by decide) fun T member => ?_
        obtain ⟨v, -, rfl⟩ := List.mem_map.1 member
        exact .value v .nil .nil
      refine .sql ?_ listed.bracketed (.sql (by decide) _)
      cases negated with
      | false => exact named.append_plain (by decide)
      | true => exact named.append_plain (by decide)
  | @search name column quoted kind config query =>
    have plain : Sql.Plain kind.function := by cases kind <;> decide
    refine .sql ?_ (.bracketed ?_) (.sql (by decide) _)
    · exact (Ident.fragment_quote quoted).between (by decide)
        (.plain plain)
    · refine .value _ (.plain (by decide) (.value _ .nil .nil)) ?_
      exact .sql (by decide) _
  | always => exact .plain (by decide) .nil
  | never => exact .plain (by decide) .nil

end Written

end Predicate

end FluentQuery
