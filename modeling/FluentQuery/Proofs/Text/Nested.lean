import FluentQuery.Proofs.Text.Balanced

/-! Nested texts: each bracket outside double quotes is closed by one of its own kind. They are
balanced, so within a bracket splitting leaves them whole whatever the quotes hold. A count of the
round brackets that does not regard quotes agrees with the nesting if there are none in quotes. -/
namespace FluentQuery.Text

variable {c : Char} {d : Nat} {s t : Text} {banned : List Char}

/-! Nested brackets -/

/-- Double quotes are paired with none of the banned characters between them, and outside them each
bracket is closed by one of its kind. -/
inductive Nested (banned : List Char) : Text → Prop where
  | nil : Nested banned []
  | plain {c : Char} {t : Text}
      (other : c ∉ '"' :: (Brackets.all.opening ++ Brackets.all.closing))
      (rest : Nested banned t) : Nested banned (c :: t)
  | quoted {s t : Text} (inside : ∀ c ∈ '"' :: banned, c ∉ s) (rest : Nested banned t) :
      Nested banned ('"' :: s ++ '"' :: t)
  | pair {o c : Char} {s t : Text} (kind : (o, c) ∈ [('(', ')'), ('\x7b', '\x7d'), ('[', ']')])
      (inner : Nested banned s) (rest : Nested banned t) : Nested banned (o :: s ++ c :: t)

theorem Nested.plain_append
    (other : ∀ c ∈ s, c ∉ '"' :: (Brackets.all.opening ++ Brackets.all.closing))
    (nested : Nested banned t) : Nested banned (s ++ t) := by
  induction s with
  | nil => exact nested
  | cons c s ih =>
    rw [List.forall_mem_cons] at other
    exact .plain other.1 (ih other.2)

theorem Nested.mono {fewer : List Char} (nested : Nested banned t) (sub : fewer ⊆ banned) :
    Nested fewer t := by
  induction nested with
  | nil => exact .nil
  | plain other rest ih => exact .plain other ih
  | quoted inside rest ih =>
    exact .quoted (fun c member => inside c (List.cons_subset_cons _ sub member)) ih
  | pair kind inner rest ihs iht => exact .pair kind ihs iht

theorem Nested.balanced (nested : Nested banned t) : Brackets.all.Balanced t := by
  induction nested with
  | nil => exact .nil
  | plain other rest ih => exact .plain other ih
  | quoted inside rest ih => exact .quoted (inside '"' List.mem_cons_self) ih
  | pair kind inner rest ihs iht =>
    simp only [List.mem_cons, Prod.mk.injEq, List.not_mem_nil, or_false] at kind
    obtain ⟨rfl, rfl⟩ | ⟨rfl, rfl⟩ | ⟨rfl, rfl⟩ := kind
    all_goals exact .pair (by decide) (by decide) ihs iht

theorem wholeAt_of_quoted {k : Int} (inside : '"' ∉ s) : WholeAt ⟨k, true⟩ s := by
  induction s with
  | nil => exact .nil _
  | cons c s ih =>
    rw [List.mem_cons, not_or] at inside
    have same : Nesting.after ⟨k, true⟩ c = ⟨k, true⟩ := by
      rw [Nesting.after, if_neg (Ne.symm inside.1), if_pos rfl]
    exact .append (.singleton same fun both => by cases congrArg Nesting.quoted both.2)
      (ih inside.2)

theorem wholeAt_quotes {k : Int} (inside : '"' ∉ s) : WholeAt ⟨k, false⟩ ('"' :: s ++ ['"']) := by
  obtain ⟨whole, back⟩ := wholeAt_of_quoted (k := k) inside
  have last : pieces ⟨k, true⟩ ['"'] = [['"']] := rfl
  constructor
  · refine pieces_cons_eq_singleton_iff.2 ⟨fun both => absurd both.1 (by decide), ?_⟩
    exact pieces_append_eq_singleton_iff.2 ⟨whole, back.symm ▸ last⟩
  · change Nesting.afterAll ⟨k, true⟩ (s ++ ['"']) = _
    rw [Nesting.afterAll_append, back]
    rfl

/-- Inside a bracket what is balanced is left whole. -/
theorem Brackets.Balanced.enclosed (balanced : Brackets.all.Balanced t) : Enclosed t := by
  induction balanced with
  | nil => exact fun _ => .nil _
  | @plain c t other rest ih =>
    intro d
    have same : Nesting.after ⟨d + 1, false⟩ c = ⟨d + 1, false⟩ := by
      rw [← Brackets.after_all, Brackets.after_plain _ other]
    exact .append (.singleton same fun both => Enclosed.ne_outside d both.2) (ih d)
  | @quoted s t inside rest ih =>
    intro d
    have quotes := (wholeAt_quotes (k := d + 1) inside).append (ih d)
    simpa using quotes
  | @pair o c s t opens closes inner rest ihs iht =>
    intro d
    have bracket : Enclosed (o :: s ++ [c]) := (ihs.bracket opens closes).enclosed
    have both := (bracket d).append (iht d)
    simpa using both

/-! Round brackets, quotes not regarded -/

/-- The text closes `d` round brackets before it and all of its own in their turn; those in quotes
count like the others. -/
def Tallies (d : Nat) (t : Text) : Prop :=
  (∀ s, s <+: t → s.count ')' ≤ d + s.count '(') ∧ t.count ')' = d + t.count '('

theorem tallies_nil_iff : Tallies d [] ↔ d = 0 := by
  simp [Tallies, eq_comm]

theorem forall_prefix_cons_iff {p : Text → Prop} :
    (∀ s, s <+: c :: t → p s) ↔ p [] ∧ ∀ s, s <+: t → p (c :: s) := by
  simp only [List.prefix_cons_iff]
  constructor
  · exact fun each => ⟨each [] (.inl rfl), fun s front => each (c :: s) (.inr ⟨s, rfl, front⟩)⟩
  · rintro ⟨none, each⟩ s (rfl | ⟨u, rfl, front⟩)
    · exact none
    · exact each u front

theorem tallies_open_iff : Tallies d ('(' :: t) ↔ Tallies (d + 1) t := by
  simp [Tallies, forall_prefix_cons_iff, Nat.add_assoc, Nat.add_comm 1]

theorem tallies_close_iff : Tallies d (')' :: t) ↔ ∃ k, d = k + 1 ∧ Tallies k t := by
  simp only [Tallies, forall_prefix_cons_iff, List.count_cons_self, List.count_nil,
    List.count_cons_of_ne (by decide : ')' ≠ '(')]
  constructor
  · rintro ⟨⟨-, front⟩, whole⟩
    have opened : 1 ≤ d := by simpa using front [] List.nil_prefix
    obtain ⟨k, rfl⟩ : ∃ k, d = k + 1 := ⟨d - 1, by omega⟩
    refine ⟨k, rfl, fun s before => ?_, by omega⟩
    have := front s before
    omega
  · rintro ⟨k, rfl, front, whole⟩
    refine ⟨⟨Nat.zero_le _, fun s before => ?_⟩, by omega⟩
    have := front s before
    omega

theorem tallies_cons_iff (open_ : c ≠ '(') (close : c ≠ ')') :
    Tallies d (c :: t) ↔ Tallies d t := by
  simp [Tallies, forall_prefix_cons_iff, open_, close]

theorem Tallies.append_of_notMem (absent : ∀ c ∈ s, c ∉ ['(', ')']) (tallies : Tallies d t) :
    Tallies d (s ++ t) := by
  induction s with
  | nil => exact tallies
  | cons c s ih =>
    rw [List.forall_mem_cons] at absent
    have other : c ≠ '(' ∧ c ≠ ')' := by simpa using absent.1
    exact (tallies_cons_iff other.1 other.2).2 (ih absent.2)

/-- With no round bracket in quotes, nested brackets are closed in their turn. -/
theorem Nested.tallies_append (nested : Nested ['(', ')'] s) (tallies : Tallies d t) :
    Tallies d (s ++ t) := by
  -- The count is generalized since a pair raises it for what it encloses.
  induction nested generalizing d t with
  | nil => exact tallies
  | plain other rest ih =>
    simp only [Brackets.all, List.mem_cons, List.mem_append, not_or] at other
    obtain ⟨-, ⟨open_, -⟩, close, -⟩ := other
    exact (tallies_cons_iff open_ close).2 (ih tallies)
  | @quoted u v inside rest ih =>
    have quoted : Tallies d ('"' :: (u ++ '"' :: (v ++ t))) := by
      rw [tallies_cons_iff (by decide) (by decide)]
      refine .append_of_notMem (fun c member special => inside c (.tail _ special) member) ?_
      rw [tallies_cons_iff (by decide) (by decide)]
      exact ih tallies
    simpa using quoted
  | @pair o c u v kind inner rest ihu ihv =>
    have pair : Tallies d (o :: (u ++ c :: (v ++ t))) := by
      simp only [List.mem_cons, Prod.mk.injEq, List.not_mem_nil, or_false] at kind
      obtain ⟨rfl, rfl⟩ | ⟨rfl, rfl⟩ | ⟨rfl, rfl⟩ := kind
      · rw [tallies_open_iff]
        exact ihu (tallies_close_iff.2 ⟨d, rfl, ihv tallies⟩)
      all_goals
        rw [tallies_cons_iff (by decide) (by decide)]
        refine ihu ?_
        rw [tallies_cons_iff (by decide) (by decide)]
        exact ihv tallies
    simpa using pair

theorem Nested.tallies (nested : Nested ['(', ')'] t) : Tallies 0 t := by
  simpa using nested.tallies_append (tallies_nil_iff.2 rfl)

end FluentQuery.Text
