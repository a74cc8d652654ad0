import FluentQuery.Proofs.Text.TopLevel
import Mathlib.Data.List.Induction

/-! Balanced texts. Every bracket is closed in its turn, and what stands in double quotes does not
count. A text is balanced just when a scan never finds more brackets closed than opened and ends
outside brackets and quotes. Which brackets count is a parameter, and as in splitting their kinds
are not told apart. -/
namespace FluentQuery.Text

/-- Characters that open and characters that close. -/
structure Brackets where
  opening : List Char
  closing : List Char
  apart : ∀ c ∈ closing, c ∉ opening
  unquoted : '"' ∉ opening ++ closing

namespace Brackets

def round : Brackets := ⟨['('], [')'], by decide, by decide⟩

/-- The brackets that splitting counts. -/
def all : Brackets :=
  ⟨['(', '\x7b', '['], [')', '\x7d', ']'], by decide, by decide⟩

variable (b : Brackets)

def after (n : Nesting) (c : Char) : Nesting :=
  if c = '"' then { n with quoted := !n.quoted }
  else if n.quoted then n
  else if c ∈ b.opening then { n with depth := n.depth + 1 }
  else if c ∈ b.closing then { n with depth := n.depth - 1 }
  else n

def afterAll (n : Nesting) (t : Text) : Nesting :=
  t.foldl b.after n

/-- No part at the front of the text closes more than is open. -/
def Stays (n : Nesting) (t : Text) : Prop :=
  ∀ s, s <+: t → 0 ≤ (b.afterAll n s).depth

/-- Brackets are closed in turn, and quotes end. -/
inductive Balanced : Text → Prop where
  | nil : Balanced []
  | plain {c : Char} {t : Text} (other : c ∉ '"' :: (b.opening ++ b.closing))
      (rest : Balanced t) : Balanced (c :: t)
  | quoted {s t : Text} (inside : '"' ∉ s) (rest : Balanced t) : Balanced ('"' :: s ++ '"' :: t)
  | pair {o c : Char} {s t : Text} (opens : o ∈ b.opening) (closes : c ∈ b.closing)
      (inner : Balanced s) (rest : Balanced t) : Balanced (o :: s ++ c :: t)

/-- After a balanced part a bracket is closed that stands before the text. -/
def Overcloses (t : Text) : Prop :=
  ∃ s c rest, t = s ++ c :: rest ∧ c ∈ b.closing ∧ Balanced b s

theorem after_all (n : Nesting) (c : Char) : all.after n c = n.after c := by
  simp [after, Nesting.after, all]

theorem afterAll_all (n : Nesting) (t : Text) : all.afterAll n t = n.afterAll t :=
  List.foldl_ext _ _ n fun n c _ => after_all n c

variable {b} {n : Nesting} {c : Char} {s t : Text}

/-! One character -/

theorem after_quote (d : Int) (quoted : Bool) : b.after ⟨d, quoted⟩ '"' = ⟨d, !quoted⟩ := by
  rw [after, if_pos rfl]

theorem after_quoted (d : Int) (other : c ≠ '"') : b.after ⟨d, true⟩ c = ⟨d, true⟩ := by
  rw [after, if_neg other, if_pos rfl]

theorem ne_quote_of_mem (member : c ∈ b.opening ++ b.closing) : c ≠ '"' := by
  rintro rfl
  exact b.unquoted member

theorem after_opening (d : Int) (opens : c ∈ b.opening) :
    b.after ⟨d, false⟩ c = ⟨d + 1, false⟩ := by
  rw [after, if_neg (ne_quote_of_mem (List.mem_append_left _ opens)), if_neg Bool.false_ne_true,
    if_pos opens]

theorem after_closing (d : Int) (closes : c ∈ b.closing) :
    b.after ⟨d, false⟩ c = ⟨d - 1, false⟩ := by
  rw [after, if_neg (ne_quote_of_mem (List.mem_append_right _ closes)), if_neg Bool.false_ne_true,
    if_neg (b.apart c closes), if_pos closes]

theorem after_plain (d : Int) (other : c ∉ '"' :: (b.opening ++ b.closing)) :
    b.after ⟨d, false⟩ c = ⟨d, false⟩ := by
  simp only [List.mem_cons, List.mem_append, not_or] at other
  rw [after, if_neg other.1, if_neg Bool.false_ne_true, if_neg other.2.1, if_neg other.2.2]

/-! Texts -/

theorem afterAll_append (n : Nesting) (s t : Text) :
    b.afterAll n (s ++ t) = b.afterAll (b.afterAll n s) t := by
  simp [afterAll]

theorem stays_nil_iff : b.Stays n [] ↔ 0 ≤ n.depth := by
  simp [Stays, afterAll]

theorem stays_cons_iff : b.Stays n (c :: t) ↔ 0 ≤ n.depth ∧ b.Stays (b.after n c) t := by
  constructor
  · intro stays
    exact ⟨stays [] List.nil_prefix,
      fun s front => stays (c :: s) (List.cons_prefix_cons.2 ⟨rfl, front⟩)⟩
  · rintro ⟨here, stays⟩ s front
    cases s with
    | nil => exact here
    | cons d s =>
      obtain ⟨rfl, behind⟩ := List.cons_prefix_cons.1 front
      exact stays s behind

/-- The scan goes from one nesting to another and never closes more than is open. -/
def Scans (b : Brackets) (n : Nesting) (t : Text) (m : Nesting) : Prop :=
  b.Stays n t ∧ b.afterAll n t = m

theorem scans_nil_iff {m : Nesting} : b.Scans n [] m ↔ 0 ≤ n.depth ∧ n = m :=
  and_congr_left fun _ => stays_nil_iff

theorem scans_cons_iff {m : Nesting} :
    b.Scans n (c :: t) m ↔ 0 ≤ n.depth ∧ b.Scans (b.after n c) t m := by
  rw [Scans, stays_cons_iff, and_assoc]
  rfl

theorem scans_append_iff {m : Nesting} :
    b.Scans n (s ++ t) m ↔ ∃ k, b.Scans n s k ∧ b.Scans k t m := by
  induction s generalizing n with
  | nil =>
    constructor
    · intro scans
      exact ⟨n, scans_nil_iff.2 ⟨scans.1 [] List.nil_prefix, rfl⟩, scans⟩
    · rintro ⟨k, first, second⟩
      exact (scans_nil_iff.1 first).2 ▸ second
  | cons c s ih => simp only [List.cons_append, scans_cons_iff, ih, exists_and_left, and_assoc]

theorem scans_of_quoted {d : Int} (positive : 0 ≤ d) (inside : '"' ∉ s) :
    b.Scans ⟨d, true⟩ s ⟨d, true⟩ := by
  induction s with
  | nil => exact scans_nil_iff.2 ⟨positive, rfl⟩
  | cons c s ih =>
    rw [List.mem_cons, not_or] at inside
    rw [scans_cons_iff, after_quoted d (Ne.symm inside.1)]
    exact ⟨positive, ih inside.2⟩

/-- What is balanced ends where it began. -/
theorem Balanced.scans (balanced : b.Balanced t) {d : Int} (positive : 0 ≤ d) :
    b.Scans ⟨d, false⟩ t ⟨d, false⟩ := by
  induction balanced generalizing d with
  | nil => exact scans_nil_iff.2 ⟨positive, rfl⟩
  | plain other rest ih =>
    rw [scans_cons_iff, after_plain d other]
    exact ⟨positive, ih positive⟩
  | quoted inside rest ih =>
    rw [List.cons_append, scans_cons_iff, after_quote, scans_append_iff]
    refine ⟨positive, _, scans_of_quoted positive inside, ?_⟩
    rw [scans_cons_iff, after_quote]
    exact ⟨positive, ih positive⟩
  | pair opens closes inner rest ihs iht =>
    have deeper : 0 ≤ d + 1 := by omega
    rw [List.cons_append, scans_cons_iff, after_opening d opens, scans_append_iff]
    refine ⟨positive, _, ihs deeper, ?_⟩
    rw [scans_cons_iff, after_closing _ closes, Int.add_sub_cancel]
    exact ⟨deeper, iht positive⟩

/-- Balanced but for `d` brackets before the text, which it closes. -/
inductive Closes (b : Brackets) : Nat → Text → Prop where
  | last {t : Text} (balanced : b.Balanced t) : Closes b 0 t
  | more {d : Nat} {c : Char} {s t : Text} (balanced : b.Balanced s) (closes : c ∈ b.closing)
      (rest : Closes b d t) : Closes b (d + 1) (s ++ c :: t)

theorem Closes.prepend {d : Nat} (closes : Closes b d t) (front : Text)
    (keeps : ∀ t, b.Balanced t → b.Balanced (front ++ t)) : Closes b d (front ++ t) := by
  cases closes with
  | last balanced => exact .last (keeps _ balanced)
  | more balanced member rest =>
    rw [← List.append_assoc]
    exact .more (keeps _ balanced) member rest

/-- By induction on the text; a scan that is within quotes comes to their end first. -/
theorem closes_of_scans (t : Text) :
    (∀ d : Nat, b.Scans ⟨d, false⟩ t .outside → Closes b d t) ∧
      ∀ d : Nat, b.Scans ⟨d, true⟩ t .outside →
        ∃ s rest, t = s ++ '"' :: rest ∧ '"' ∉ s ∧ Closes b d rest := by
  induction t with
  | nil =>
    constructor
    · intro d scans
      obtain ⟨-, same⟩ := scans_nil_iff.1 scans
      obtain rfl : d = 0 := by simpa [Nesting.outside] using same
      exact .last .nil
    · intro d scans
      obtain ⟨-, same⟩ := scans_nil_iff.1 scans
      cases congrArg Nesting.quoted same
  | cons c t ih =>
    constructor
    · intro d scans
      obtain ⟨-, later⟩ := scans_cons_iff.1 scans
      by_cases quote : c = '"'
      · rw [quote, after_quote] at later
        obtain ⟨s, rest, rfl, inside, closes⟩ := ih.2 d later
        have quoted := closes.prepend ('"' :: s ++ ['"']) fun t balanced => by
          simpa using Balanced.quoted inside balanced
        simpa [quote] using quoted
      · by_cases opens : c ∈ b.opening
        · rw [after_opening _ opens] at later
          cases ih.1 (d + 1) later with
          | @more _ e s t balanced closes rest =>
            have pair := rest.prepend (c :: s ++ [e]) fun t behind => by
              simpa using Balanced.pair opens closes balanced behind
            simpa using pair
        · by_cases closes : c ∈ b.closing
          · rw [after_closing _ closes] at later
            have open_ : 0 ≤ (d : Int) - 1 := later.1 [] List.nil_prefix
            obtain ⟨k, rfl⟩ : ∃ k, d = k + 1 := ⟨d - 1, by omega⟩
            rw [Int.natCast_add, Int.natCast_one, Int.add_sub_cancel] at later
            exact .more .nil closes (ih.1 k later)
          · have other : c ∉ '"' :: (b.opening ++ b.closing) := by simp [quote, opens, closes]
            rw [after_plain _ other] at later
            exact (ih.1 d later).prepend [c] fun t balanced => .plain other balanced
    · intro d scans
      obtain ⟨-, later⟩ := scans_cons_iff.1 scans
      by_cases quote : c = '"'
      · rw [quote, after_quote] at later
        exact ⟨[], t, by rw [quote]; rfl, List.not_mem_nil, ih.1 d later⟩
      · rw [after_quoted _ quote] at later
        obtain ⟨s, rest, rfl, inside, closes⟩ := ih.2 d later
        exact ⟨c :: s, rest, rfl, by simp [inside, Ne.symm quote], closes⟩

theorem balanced_iff : b.Balanced t ↔ b.Scans .outside t .outside := by
  refine ⟨fun balanced => balanced.scans (Int.le_refl 0), fun scans => ?_⟩
  cases (closes_of_scans t).1 0 scans with
  | last balanced => exact balanced

theorem stays_concat_iff :
    b.Stays n (t ++ [c]) ↔ b.Stays n t ∧ 0 ≤ (b.after (b.afterAll n t) c).depth := by
  have whole : b.afterAll n (t ++ [c]) = b.after (b.afterAll n t) c := afterAll_append ..
  constructor
  · intro stays
    exact ⟨fun s front => stays s (front.trans (List.prefix_append ..)),
      whole ▸ stays _ List.prefix_rfl⟩
  · rintro ⟨stays, last⟩ s front
    obtain rfl | front := List.prefix_concat_iff.1 front
    · rwa [whole]
    · exact stays s front

/-- Only a closing bracket outside quotes takes the count below zero. -/
theorem of_after_neg (positive : 0 ≤ n.depth) (low : (b.after n c).depth < 0) :
    c ∈ b.closing ∧ n = .outside := by
  obtain ⟨d, quoted⟩ := n
  unfold after at low
  split_ifs at low with quote within opens closes
  all_goals simp only at positive low
  · omega
  · omega
  · omega
  · obtain rfl : d = 0 := by omega
    cases quoted with
    | true => exact absurd rfl within
    | false => exact ⟨closes, rfl⟩
  · omega

/-- The text closes a bracket that stands before it just when the scan closes more than is open. -/
theorem overcloses_iff : b.Overcloses t ↔ ¬ b.Stays .outside t := by
  constructor
  · rintro ⟨s, c, rest, rfl, closes, balanced⟩ stays
    have low := stays (s ++ [c]) ⟨rest, by simp⟩
    rw [afterAll_append, (balanced_iff.1 balanced).2] at low
    change 0 ≤ (b.after ⟨0, false⟩ c).depth at low
    rw [after_closing 0 closes] at low
    exact absurd low (by decide)
  · intro strays
    induction t using List.reverseRecOn with
    | nil => exact absurd (stays_nil_iff.2 (Int.le_refl 0)) strays
    | append_singleton t c ih =>
      by_cases stays : b.Stays .outside t
      · have low : (b.after (b.afterAll .outside t) c).depth < 0 :=
          Int.not_le.1 fun high => strays (stays_concat_iff.2 ⟨stays, high⟩)
        obtain ⟨closes, back⟩ := of_after_neg (stays t List.prefix_rfl) low
        exact ⟨t, c, [], rfl, closes, balanced_iff.2 ⟨stays, back⟩⟩
      · obtain ⟨s, d, rest, rfl, closes, balanced⟩ := ih stays
        exact ⟨s, d, rest ++ [c], by simp, closes, balanced⟩

end Brackets

end FluentQuery.Text
