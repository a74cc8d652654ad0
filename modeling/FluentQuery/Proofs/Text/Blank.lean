import FluentQuery.Proofs.Text.TopLevel
import FluentQuery.Text.Word
import Mathlib.Data.List.TakeWhile

/-! Trimming takes blanks off both ends and nothing else: characters that are no blanks are counted
as before, and where a scan for brackets and quotes stands does not change. -/
namespace FluentQuery.Text

variable {c d : Char} {s t : Text}

theorem trim_prefix_trimLeft (t : Text) : trim t <+: trimLeft t := by
  have back := List.dropWhile_suffix isBlank (l := (trimLeft t).reverse)
  rw [← List.reverse_prefix, List.reverse_reverse] at back
  exact back

theorem trim_sublist (t : Text) : (trim t).Sublist t :=
  (trim_prefix_trimLeft t).sublist.trans (List.dropWhile_sublist isBlank)

/-- What is trimmed off is blank. -/
theorem exists_eq_append_trim (t : Text) :
    ∃ front back, t = front ++ trim t ++ back ∧ ∀ c ∈ front ++ back, isBlank c = true := by
  refine ⟨t.takeWhile isBlank, ((trimLeft t).reverse.takeWhile isBlank).reverse, ?_, ?_⟩
  · have right : trim t ++ ((trimLeft t).reverse.takeWhile isBlank).reverse = trimLeft t := by
      rw [trim, trimRight, ← List.reverse_append, List.takeWhile_append_dropWhile,
        List.reverse_reverse]
    rw [List.append_assoc, right]
    exact List.takeWhile_append_dropWhile.symm
  · intro c member
    rw [List.mem_append, List.mem_reverse] at member
    exact member.elim List.mem_takeWhile_imp List.mem_takeWhile_imp

theorem isBlank_head?_dropWhile (t : Text) :
    ∀ c ∈ (t.dropWhile isBlank).head?, isBlank c = false := by
  intro c first
  have stop := List.head?_dropWhile_not isBlank t
  rw [first] at stop
  exact stop

theorem trimmed_trim (t : Text) : Trimmed (trim t) := by
  constructor
  · intro c first
    obtain ⟨rest, same⟩ := trim_prefix_trimLeft t
    refine isBlank_head?_dropWhile t c ?_
    rw [← trimLeft, ← same, List.head?_append, first]
    rfl
  · intro c last
    rw [trim, trimRight, List.getLast?_reverse] at last
    exact isBlank_head?_dropWhile _ c last

theorem trim_trim (t : Text) : trim (trim t) = trim t :=
  trim_eq_self (trimmed_trim t)

/-- A text that trimming leaves as long is trimmed. -/
theorem trimmed_of_length_le (long : t.length ≤ (trim t).length) : Trimmed t :=
  (trim_sublist t).eq_of_length_le long ▸ trimmed_trim t

/-! Texts that start with a character that is no blank -/

theorem trimLeft_cons (solid : isBlank c = false) (t : Text) : trimLeft (c :: t) = c :: t :=
  List.dropWhile_cons_of_neg (by simp [solid])

/-- Between two such texts nothing is trimmed. -/
theorem trim_append (solid : isBlank c = false) (solid' : isBlank d = false) (s t : Text) :
    trim (c :: s ++ d :: t) = c :: s ++ trim (d :: t) := by
  have filled : (d :: t).reverse.dropWhile isBlank ≠ [] := by
    intro blank
    have each := List.dropWhile_eq_nil_iff.1 blank d (by simp)
    cases each.symm.trans solid'
  rw [trim, trim, trimLeft_cons solid', List.cons_append, trimLeft_cons solid, ← List.cons_append,
    trimRight, trimRight, List.reverse_append, List.dropWhile_append,
    if_neg (by simpa using filled), List.reverse_append, List.reverse_reverse]

/-! Blanks around a text -/

/-- Between blanks a trimmed text is all that trimming leaves. -/
theorem trim_eq_of_blank {front back : Text} (trimmed : Trimmed t)
    (before : ∀ c ∈ front, isBlank c = true) (behind : ∀ c ∈ back, isBlank c = true) :
    trim (front ++ t ++ back) = t := by
  have none : back.dropWhile isBlank = [] := List.dropWhile_eq_nil_iff.2 behind
  rw [trim, trimLeft, List.append_assoc, List.dropWhile_append_of_pos before]
  cases t with
  | nil => rw [List.nil_append, none]; rfl
  | cons c t =>
    have first : isBlank c = false := trimmed.1 c rfl
    have right : trimRight (c :: t) = c :: t := by
      have same := trim_eq_self trimmed
      rwa [trim, trimLeft_cons first] at same
    have blank : ∀ d ∈ back.reverse, isBlank d = true :=
      fun d member => behind d (List.mem_reverse.1 member)
    rw [List.cons_append, List.dropWhile_cons_of_neg (by simp [first]), trimRight,
      ← List.cons_append, List.reverse_append, List.dropWhile_append_of_pos blank, ← trimRight,
      right]

theorem trim_append_blank {back : Text} (blank : ∀ c ∈ back, isBlank c = true) :
    trim (t ++ back) = trim t := by
  obtain ⟨front, rest, same, ends⟩ := exists_eq_append_trim t
  rw [List.forall_mem_append] at ends
  conv_lhs => rw [same, List.append_assoc]
  exact trim_eq_of_blank (trimmed_trim t) ends.1 (List.forall_mem_append.2 ⟨ends.2, blank⟩)

theorem trim_blank_append {front : Text} (blank : ∀ c ∈ front, isBlank c = true) :
    trim (front ++ t) = trim t := by
  rw [trim, trimLeft, List.dropWhile_append_of_pos blank, ← trimLeft, ← trim]

/-! Characters and scans -/

theorem count_trim (solid : isBlank c = false) (t : Text) : (trim t).count c = t.count c := by
  obtain ⟨front, back, same, blank⟩ := exists_eq_append_trim t
  have absent : c ∉ front ++ back := fun member => by cases solid.symm.trans (blank c member)
  rw [List.mem_append, not_or] at absent
  conv_rhs => rw [same]
  rw [List.count_append, List.count_append, List.count_eq_zero.2 absent.1,
    List.count_eq_zero.2 absent.2, Nat.zero_add, Nat.add_zero]

theorem mem_trim_iff (solid : isBlank c = false) : c ∈ trim t ↔ c ∈ t := by
  rw [← List.count_pos_iff, count_trim solid, List.count_pos_iff]

theorem exists_trim_cons (solid : isBlank c = false) (t : Text) :
    ∃ rest, trim (c :: t) = c :: rest := by
  obtain ⟨back, same⟩ := trim_prefix_trimLeft (c :: t)
  have member : c ∈ trim (c :: t) := (mem_trim_iff solid).2 List.mem_cons_self
  rw [trimLeft_cons solid] at same
  obtain ⟨d, rest, split⟩ := List.exists_cons_of_ne_nil (List.ne_nil_of_mem member)
  rw [split] at same ⊢
  exact ⟨rest, by rw [(List.cons.inj same).1]⟩

/-! Words -/

theorem isWordChar_of_mem (word : isWord t = true) (member : c ∈ t) : isWordChar c = true := by
  simp only [isWord, Bool.and_eq_true, List.all_eq_true] at word
  exact word.2 c member

theorem ne_nil_of_isWord (word : isWord t = true) : t ≠ [] := by
  rintro rfl
  cases word

theorem notMem_of_isWord (word : isWord t = true) {special : Char}
    (foreign : isWordChar special = false) : special ∉ t := fun member => by
  cases foreign.symm.trans (isWordChar_of_mem word member)

theorem isBlank_of_isWordChar (word : isWordChar c = true) : isBlank c = false := by
  have each : ∀ n ∈ blankCodes, isWordChar (Char.ofNat n) = false := by
    decide +kernel
  rw [Bool.eq_false_iff]
  intro blank
  have listed := each c.toNat (by simpa [isBlank] using blank)
  rw [Char.ofNat_toNat, word] at listed
  cases listed

theorem trimmed_of_isWord (word : isWord t = true) : Trimmed t :=
  ⟨fun _ first => isBlank_of_isWordChar (isWordChar_of_mem word (List.mem_of_mem_head? first)),
    fun _ last => isBlank_of_isWordChar (isWordChar_of_mem word (List.mem_of_mem_getLast? last))⟩

/-! Scans -/

theorem notMem_structural_of_isBlank (blank : isBlank c = true) : c ∉ structural := by
  have solid : ∀ c ∈ structural, isBlank c = false := by decide
  intro member
  cases blank.symm.trans (solid c member)

theorem Nesting.afterAll_of_blank (n : Nesting) (blank : ∀ c ∈ t, isBlank c = true) :
    n.afterAll t = n := by
  induction t with
  | nil => rfl
  | cons c t ih =>
    rw [List.forall_mem_cons] at blank
    change (n.after c).afterAll t = n
    rw [after_of_flat (notMem_structural_of_isBlank blank.1), ih blank.2]

theorem Nesting.afterAll_trim (n : Nesting) (t : Text) : n.afterAll (trim t) = n.afterAll t := by
  obtain ⟨front, back, same, blank⟩ := exists_eq_append_trim t
  rw [List.forall_mem_append] at blank
  conv_rhs => rw [same]
  rw [afterAll_append, afterAll_append, afterAll_of_blank n blank.1, afterAll_of_blank _ blank.2]

/-! Splitting -/

theorem wholeAt_of_blank (n : Nesting) (blank : ∀ c ∈ t, isBlank c = true) : WholeAt n t :=
  .of_flat n fun c member => notMem_structural_of_isBlank (blank c member)

/-- Blanks behind a text are behind its last piece. -/
theorem pieces_append_blank {n : Nesting} {back last : Text} {front : List Text}
    (blank : ∀ c ∈ back, isBlank c = true) (split : pieces n t = front ++ [last]) :
    pieces n (t ++ back) = front ++ [last ++ back] := by
  induction front generalizing n t with
  | nil =>
    obtain ⟨whole, ⟨rfl, -⟩ | ⟨rest, -, -, none⟩⟩ := pieces_eq_cons_iff.1 split
    · exact pieces_append_eq_singleton_iff.2 ⟨whole, (wholeAt_of_blank _ blank).whole⟩
    · exact absurd none (pieces_ne_nil _ _)
  | cons piece front ih =>
    obtain ⟨whole, ⟨-, none⟩ | ⟨rest, rfl, outside, later⟩⟩ := pieces_eq_cons_iff.1 split
    · simp at none
    · rw [List.append_assoc]
      exact pieces_eq_cons_iff.2 ⟨whole, .inr ⟨rest ++ back, rfl, outside, ih later⟩⟩

theorem splitTopLevel_append_blank {back : Text} (blank : ∀ c ∈ back, isBlank c = true) :
    splitTopLevel (t ++ back) = splitTopLevel t := by
  obtain ⟨front, last, split⟩ : ∃ front last, pieces .outside t = front ++ [last] :=
    List.eq_nil_or_concat' _ |>.resolve_left (pieces_ne_nil _ _)
  rw [splitTopLevel, splitTopLevel, pieces_append_blank blank split, split, List.map_append,
    List.map_append, List.map_singleton, List.map_singleton, trim_append_blank blank]

theorem splitTopLevel_blank_append {front : Text} (blank : ∀ c ∈ front, isBlank c = true) :
    splitTopLevel (front ++ t) = splitTopLevel t := by
  obtain ⟨whole, back⟩ := wholeAt_of_blank .outside blank
  obtain ⟨piece, more, split⟩ := List.exists_cons_of_ne_nil (pieces_ne_nil .outside t)
  rw [splitTopLevel, splitTopLevel, pieces_append whole (back.symm ▸ split), split, List.map_cons,
    List.map_cons, trim_blank_append blank]

/-- Blanks at the ends of a list do not bear on its items. -/
theorem splitTopLevel_trim (t : Text) : splitTopLevel (trim t) = splitTopLevel t := by
  obtain ⟨front, back, same, blank⟩ := exists_eq_append_trim t
  rw [List.forall_mem_append] at blank
  conv_rhs => rw [same]
  rw [splitTopLevel_append_blank blank.2, splitTopLevel_blank_append blank.1]

/-- An item that another one follows ends outside. -/
theorem back_of_splitTopLevel {item : Text} {front more : List Text}
    (split : splitTopLevel t = front ++ item :: more) (followed : more ≠ []) :
    Nesting.outside.afterAll item = .outside := by
  obtain ⟨before, behind, same, -, later⟩ := List.filter_eq_append_iff.1 split
  obtain ⟨blank, after, rfl, -, -, rfl⟩ := List.filter_eq_cons_iff.1 later
  rw [← List.append_assoc] at same
  obtain ⟨first, second, pieces, -, same⟩ := List.map_eq_append_iff.1 same
  obtain ⟨p, rest, rfl, rfl, rfl⟩ := List.map_eq_cons_iff.1 same
  have after : rest ≠ [] := by
    rintro rfl
    exact followed rfl
  rw [Nesting.afterAll_trim]
  exact back_of_pieces pieces after

end FluentQuery.Text
