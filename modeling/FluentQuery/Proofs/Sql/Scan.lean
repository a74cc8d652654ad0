import FluentQuery.Ident
import FluentQuery.Predicate
import Mathlib.Data.List.Range

/-! SQL text as a server scans it from left to right: what stands outside quoted identifiers, and
the placeholders there. A fragment is a text whose scan ends outside quotes and meets nothing that
could open a string, a comment or a further statement; fragments are put together as long as the
next one does not go on with a quote or a digit. -/
namespace FluentQuery

theorem Text.takeWhile_append_of_head? {p : Char → Bool} {a b : Text} (inside : ∀ c ∈ a, p c = true)
    (stop : ∀ c ∈ b.head?, p c = false) : (a ++ b).takeWhile p = a := by
  rw [List.takeWhile_append_of_pos inside]
  cases b with
  | nil => simp
  | cons c b => simp [stop c rfl]

theorem Text.dropWhile_append_of_head? {p : Char → Bool} {a b : Text} (inside : ∀ c ∈ a, p c = true)
    (stop : ∀ c ∈ b.head?, p c = false) : (a ++ b).dropWhile p = b := by
  rw [List.dropWhile_append_of_pos inside]
  cases b with
  | nil => simp
  | cons c b => simp [stop c rfl]

/-- The last piece before goes on with the first one behind. -/
theorem Text.splitOn_append {sep : Char} {a b last first : Text} {init rest : List Text}
    (before : splitOn sep a = init ++ [last]) (behind : splitOn sep b = first :: rest) :
    splitOn sep (a ++ b) = init ++ (last ++ first) :: rest := by
  induction a generalizing init last with
  | nil =>
    cases init with
    | nil =>
      obtain rfl : [] = last := (List.cons.inj before).1
      simpa using behind
    | cons t init => simp [splitOn] at before
  | cons c a ih =>
    rw [List.cons_append, splitOn]
    rw [splitOn] at before
    split at before
    · next same =>
      rw [if_pos same]
      cases init with
      | nil => exact absurd (List.cons.inj before).2 (splitOn_ne_nil sep a)
      | cons t init =>
        obtain ⟨rfl, later⟩ := List.cons.inj before
        rw [ih later]
        rfl
    · next other =>
      rw [if_neg other]
      split at before
      · next none => exact absurd none (splitOn_ne_nil sep a)
      · next piece pieces pieced =>
        cases init with
        | nil =>
          obtain ⟨rfl, rfl⟩ := List.cons.inj before
          rw [ih (show splitOn sep a = [] ++ [piece] from pieced)]
          rfl
        | cons t init =>
          obtain ⟨rfl, rfl⟩ := List.cons.inj before
          rw [ih (show splitOn sep a = (piece :: init) ++ [last] from pieced)]
          rfl

theorem Text.splitOn_append_cons (sep : Char) (a b : Text) :
    splitOn sep (a ++ sep :: b) = splitOn sep a ++ splitOn sep b := by
  have before := (List.dropLast_append_getLast (splitOn_ne_nil sep a)).symm
  have behind : splitOn sep (sep :: b) = [] :: splitOn sep b := by rw [splitOn, if_pos rfl]
  rw [splitOn_append before behind, List.append_nil, List.append_cons, ← before]

namespace Sql

/-- The text outside quoted identifiers, each of which leaves an empty pair of quotes. A quote opens
an identifier; inside it a doubled quote stands for itself and a single one closes it. Nothing is
left if the last identifier is not closed. -/
def outside? : (quoted : Bool) → Text → Option Text
  | false, [] => some []
  | false, c :: rest =>
    if c = '"' then (outside? true rest).map ('"' :: ·) else (outside? false rest).map (c :: ·)
  | true, [] => none
  | true, '"' :: '"' :: rest => outside? true rest
  | true, '"' :: rest => (outside? false rest).map ('"' :: ·)
  | true, _ :: rest => outside? true rest

/-- The numbers after dollar signs, in order. -/
def numbers : Text → List Nat
  | [] => []
  | c :: rest =>
    if c = '$' ∧ rest.takeWhile Char.isDigit ≠ [] then
      Nat.ofDigitChars 10 (rest.takeWhile Char.isDigit) 0 :: numbers rest
    else numbers rest

/-- The numbers of the placeholders outside quoted identifiers. -/
def placeholders? (t : Text) : Option (List Nat) :=
  (outside? false t).map numbers

/-! Scanning -/

@[simp] theorem outside?_nil : outside? false [] = some [] := rfl

theorem outside?_cons {c : Char} (bare : c ≠ '"') (rest : Text) :
    outside? false (c :: rest) = (outside? false rest).map (c :: ·) := by
  rw [outside?, if_neg bare]

theorem outside?_append_of_bare {a : Text} (bare : ∀ c ∈ a, c ≠ '"') (rest : Text) :
    outside? false (a ++ rest) = (outside? false rest).map (a ++ ·) := by
  induction a with
  | nil => simp
  | cons c a ih =>
    obtain ⟨first, later⟩ := List.forall_mem_cons.1 bare
    rw [List.cons_append, outside?_cons first, ih later, Option.map_map]
    rfl

/-- The scan of a text goes on behind it, unless a quote there makes its last one a doubled one. -/
theorem outside?_append {quoted : Bool} {a u rest : Text} (scanned : outside? quoted a = some u)
    (apart : rest.head? ≠ some '"') :
    outside? quoted (a ++ rest) = (outside? false rest).map (u ++ ·) := by
  fun_induction outside? quoted a generalizing u with
  | case1 =>
    cases scanned
    simp
  | case2 a ih =>
    obtain ⟨v, inner, rfl⟩ := Option.map_eq_some_iff.1 scanned
    rw [List.cons_append, outside?, if_pos rfl, ih inner, Option.map_map]
    rfl
  | case3 c a bare ih =>
    obtain ⟨v, inner, rfl⟩ := Option.map_eq_some_iff.1 scanned
    rw [List.cons_append, outside?_cons bare, ih inner, Option.map_map]
    rfl
  | case4 => cases scanned
  | case5 a ih => exact ih scanned
  | case6 a single ih =>
    obtain ⟨v, inner, rfl⟩ := Option.map_eq_some_iff.1 scanned
    rw [List.cons_append, outside?, ih inner, Option.map_map]
    · rfl
    · intro more doubled
      cases a with
      | nil => exact apart (by rw [← List.nil_append rest, doubled]; rfl)
      | cons c a => exact single a (by rw [(List.cons.inj doubled).1])
  | case7 c a _ other ih =>
    rw [List.cons_append, outside?]
    · exact ih scanned
    · exact fun _ quote _ => other quote
    · exact other

theorem outside?_doubleQuotes (part : Text) {rest : Text} (apart : rest.head? ≠ some '"') :
    outside? true (Ident.doubleQuotes part ++ '"' :: rest) =
      (outside? false rest).map ('"' :: ·) := by
  induction part with
  | nil =>
    rw [Ident.doubleQuotes, List.flatMap_nil, List.nil_append, outside?]
    intro more doubled
    exact apart (by rw [doubled]; rfl)
  | cons c part ih =>
    rw [Ident.doubleQuotes, List.flatMap_cons]
    split
    · next quote => exact ih
    · next plain =>
      rw [List.append_assoc, List.singleton_append, outside?]
      · exact ih
      · exact fun _ quote _ => plain quote
      · exact plain

/-- A quoted identifier leaves its quotes. -/
theorem outside?_quotePart (part : Text) {rest : Text} (apart : rest.head? ≠ some '"') :
    outside? false (Ident.quotePart part ++ rest) =
      (outside? false rest).map (['"', '"'] ++ ·) := by
  rw [Ident.quotePart, List.cons_append, List.cons_append, List.append_assoc,
    List.singleton_append, outside?, if_pos rfl, outside?_doubleQuotes part apart, Option.map_map]
  rfl

/-! Numbers -/

theorem numbers_append (a : Text) {b : Text} (stop : ∀ c ∈ b.head?, c.isDigit = false) :
    numbers (a ++ b) = numbers a ++ numbers b := by
  induction a with
  | nil => rfl
  | cons c a ih =>
    have digits : (a ++ b).takeWhile Char.isDigit = a.takeWhile Char.isDigit := by
      rw [List.takeWhile_append]
      split
      · next all =>
        have same := (List.takeWhile_prefix Char.isDigit (l := a)).eq_of_length all
        rw [same]
        cases b with
        | nil => simp
        | cons d b => simp [stop d rfl]
      · rfl
    rw [List.cons_append, numbers, numbers, digits, ih]
    split <;> rfl

theorem numbers_of_notMem {t : Text} (none : '$' ∉ t) : numbers t = [] := by
  induction t with
  | nil => rfl
  | cons c t ih =>
    rw [List.mem_cons, not_or] at none
    rw [numbers, if_neg fun both => none.1 both.1.symm, ih none.2]

theorem isDigit_of_mem_toDigits {n : Nat} {c : Char} (member : c ∈ Nat.toDigits 10 n) :
    c.isDigit = true :=
  Nat.isDigit_of_mem_toDigits (by omega) (by omega) member

theorem notMem_toDigits {n : Nat} {c : Char} (other : c.isDigit = false) : c ∉ Nat.toDigits 10 n :=
  fun member => by
    rw [isDigit_of_mem_toDigits member] at other
    cases other

/-- A placeholder alone is its number. -/
theorem numbers_placeholder (n : Nat) : numbers ('$' :: Nat.toDigits 10 n) = [n] := by
  have digits : (Nat.toDigits 10 n).takeWhile Char.isDigit = Nat.toDigits 10 n := by
    simpa using Text.takeWhile_append_of_head? (a := Nat.toDigits 10 n) (b := [])
      (fun c member => isDigit_of_mem_toDigits member) (by simp)
  rw [numbers, digits, if_pos ⟨rfl, Nat.toDigits_ne_nil⟩, Nat.ofDigitChars_ten_toDigits,
    numbers_of_notMem (notMem_toDigits rfl)]

/-! Words -/

/-- No word opens with the letter that WHERE opens with. -/
def Calm (t : Text) : Prop :=
  ∀ word ∈ Text.splitOn ' ' t, word.head? ≠ some 'W'

instance (t : Text) : Decidable (Calm t) :=
  inferInstanceAs (Decidable (∀ word ∈ Text.splitOn ' ' t, word.head? ≠ some 'W'))

theorem Calm.append {a b : Text} (first : Calm a) (second : Calm b) : Calm (a ++ b) := by
  have before := (List.dropLast_append_getLast (Text.splitOn_ne_nil ' ' a)).symm
  obtain ⟨word, rest, behind⟩ := List.exists_cons_of_ne_nil (Text.splitOn_ne_nil ' ' b)
  unfold Calm at first second
  rw [before] at first
  rw [behind] at second
  simp only [List.forall_mem_append, List.forall_mem_cons] at first second
  rw [Calm, Text.splitOn_append before behind, List.forall_mem_append, List.forall_mem_cons]
  refine ⟨first.1, ?_, second.2⟩
  cases last : (Text.splitOn ' ' a).getLast (Text.splitOn_ne_nil ' ' a) with
  | nil => exact second.1
  | cons c t =>
    rw [last] at first
    exact first.2.1

theorem Calm.of_notMem {t : Text} (single : ' ' ∉ t) (other : t.head? ≠ some 'W') : Calm t := by
  have alone : Text.splitOn ' ' t = [t] := by
    clear other
    induction t with
    | nil => rfl
    | cons c t ih =>
      obtain ⟨first, later⟩ := not_or.1 (List.mem_cons.not.1 single)
      rw [Text.splitOn, if_neg (Ne.symm first), ih later]
  rw [Calm, alone]
  simpa using other

/-- The text outside quoted identifiers has the keyword as a word of its own. -/
def HasWord (keyword t : Text) : Prop :=
  ∃ u, outside? false t = some u ∧ keyword ∈ Text.splitOn ' ' u

/-! Fragments -/

/-- The characters that open strings, comments and further statements, and NUL. -/
def forbidden : List Char := [Char.ofNat 0, ';', Char.ofNat 39, '\\', '-', '/']

def isHarmless (c : Char) : Bool :=
  c ∉ forbidden

/-- A character that stands for itself wherever it stands. -/
def isPlain (c : Char) : Bool :=
  isHarmless c && c != '"' && c != '$'

theorem isPlain_iff {c : Char} : isPlain c = true ↔ c ∉ '"' :: '$' :: forbidden := by
  simp only [isPlain, isHarmless, Bool.and_eq_true, bne_iff_ne, decide_eq_true_iff, List.mem_cons,
    not_or]
  tauto

/-- SQL that stands for itself and opens no clause of conditions. -/
structure Plain (t : Text) : Prop where
  chars : ∀ c ∈ t, isPlain c = true
  calm : Calm t

instance (t : Text) : Decidable (Plain t) :=
  decidable_of_iff ((∀ c ∈ t, isPlain c = true) ∧ Calm t)
    ⟨fun both => ⟨both.1, both.2⟩, fun plain => ⟨plain.chars, plain.calm⟩⟩

theorem Plain.append {a b : Text} (first : Plain a) (second : Plain b) : Plain (a ++ b) :=
  ⟨List.forall_mem_append.2 ⟨first.chars, second.chars⟩, first.calm.append second.calm⟩

/-- A single word of plain characters. -/
def IsWord (t : Text) : Prop :=
  ∀ c ∈ t, isPlain c = true ∧ c ≠ ' '

theorem IsWord.append {a b : Text} (first : IsWord a) (second : IsWord b) : IsWord (a ++ b) :=
  List.forall_mem_append.2 ⟨first, second⟩

theorem IsWord.plain {t : Text} (word : IsWord t) (other : t.head? ≠ some 'W') : Plain t :=
  ⟨fun c member => (word c member).1, .of_notMem (fun member => (word ' ' member).2 rfl) other⟩

theorem IsWord.cast {t : Text} (word : IsWord t) : Plain ("::" ++ t) :=
  (IsWord.append (a := "::") (by unfold IsWord; decide) word).plain (by simp)

/-- A text that ends outside quotes, with nothing forbidden there and with the placeholders `ns`. It
may hold a WHERE clause only if it is `filtered`. -/
structure Fragment (filtered : Bool) (t : Text) (ns : List Nat) : Prop where
  noNul : Char.ofNat 0 ∉ t
  bare : ∃ u, outside? false t = some u ∧ numbers u = ns ∧ (∀ c ∈ u, isHarmless c = true) ∧
    (filtered = false → Calm u)

/-- A text that goes on neither an identifier nor a number before it. -/
def Apart (t : Text) : Prop :=
  ∀ c ∈ t.head?, c ≠ '"' ∧ c.isDigit = false

instance (t : Text) : Decidable (Apart t) :=
  inferInstanceAs (Decidable (∀ c ∈ t.head?, c ≠ '"' ∧ c.isDigit = false))

theorem Apart.nil : Apart [] :=
  fun _ member => nomatch member

theorem Apart.cons {c : Char} (bare : c ≠ '"') (other : c.isDigit = false) (rest : Text) :
    Apart (c :: rest) := by
  rintro _ ⟨⟩
  exact ⟨bare, other⟩

theorem Apart.append {a b : Text} (first : Apart a) (second : Apart b) : Apart (a ++ b) := by
  cases a with
  | nil => exact second
  | cons c a => exact first

/-- A text that keeps what follows it apart, too. -/
structure Opens (t : Text) : Prop where
  filled : t ≠ []
  apart : Apart t

instance (t : Text) : Decidable (Opens t) :=
  decidable_of_iff (t ≠ [] ∧ Apart t)
    ⟨fun both => ⟨both.1, both.2⟩, fun opens => ⟨opens.1, opens.2⟩⟩

theorem Opens.before {a : Text} (opens : Opens a) (b : Text) : Opens (a ++ b) := by
  cases a with
  | nil => exact absurd rfl opens.filled
  | cons c a => exact ⟨by simp, opens.apart⟩

/-- Plain text between two parts. -/
structure Separator (t : Text) : Prop extends Opens t where
  plain : Plain t

instance (t : Text) : Decidable (Separator t) :=
  decidable_of_iff (Opens t ∧ Plain t) ⟨fun both => ⟨both.1, both.2⟩, fun sep => ⟨sep.1, sep.2⟩⟩

theorem Apart.head?_ne {t : Text} (apart : Apart t) : t.head? ≠ some '"' :=
  fun quote => (apart '"' quote).1 rfl

namespace Fragment

variable {filtered : Bool} {a b : Text} {ns ms : List Nat}

theorem placeholders? (fragment : Fragment filtered a ns) : placeholders? a = some ns := by
  obtain ⟨u, scanned, numbered, -⟩ := fragment.bare
  rw [Sql.placeholders?, scanned, Option.map_some, numbered]

theorem weaken (fragment : Fragment false a ns) : Fragment filtered a ns := by
  obtain ⟨u, scanned, numbered, harmless, calm⟩ := fragment.bare
  exact ⟨fragment.noNul, u, scanned, numbered, harmless, fun _ => calm rfl⟩

theorem nil : Fragment filtered [] [] :=
  ⟨by simp, [], rfl, rfl, by simp, fun _ => by decide⟩

/-- Fragments side by side, where they keep apart. -/
theorem append (first : Fragment filtered a ns) (second : Fragment filtered b ms)
    (apart : Apart b) : Fragment filtered (a ++ b) (ns ++ ms) := by
  obtain ⟨u, scanned, rfl, harmless, calm⟩ := first.bare
  obtain ⟨v, scannedLater, rfl, harmlessLater, calmLater⟩ := second.bare
  refine ⟨?_, u ++ v, ?_, ?_, List.forall_mem_append.2 ⟨harmless, harmlessLater⟩, fun bare =>
    (calm bare).append (calmLater bare)⟩
  · rw [List.mem_append, not_or]
    exact ⟨first.noNul, second.noNul⟩
  · rw [outside?_append scanned apart.head?_ne, scannedLater, Option.map_some]
  · refine numbers_append u fun c head => ?_
    -- the scan of `b` starts with the first character of `b`, which is no quote
    cases b with
    | nil =>
      cases scannedLater
      cases head
    | cons d b =>
      rw [outside?_cons (apart d rfl).1] at scannedLater
      obtain ⟨w, -, rfl⟩ := Option.map_eq_some_iff.1 scannedLater
      cases head
      exact (apart _ rfl).2

theorem chars_append (chars : ∀ c ∈ a, isPlain c = true) (calm : filtered = false → Calm a)
    (second : Fragment filtered b ms) : Fragment filtered (a ++ b) ms := by
  obtain ⟨v, scanned, rfl, harmless, calmLater⟩ := second.bare
  simp only [isPlain, Bool.and_eq_true, bne_iff_ne] at chars
  refine ⟨?_, a ++ v, ?_, ?_, ?_, fun bare => (calm bare).append (calmLater bare)⟩
  · rw [List.mem_append, not_or]
    refine ⟨fun member => ?_, second.noNul⟩
    have := (chars _ member).1.1
    revert this
    decide
  · rw [outside?_append_of_bare fun c member => (chars c member).1.2, scanned, Option.map_some]
  · clear calm
    induction a with
    | nil => rfl
    | cons c a ih =>
      obtain ⟨first, later⟩ := List.forall_mem_cons.1 chars
      rw [List.cons_append, numbers, if_neg fun both => first.2 both.1]
      exact ih later
  · exact List.forall_mem_append.2 ⟨fun c member => (chars c member).1.1, harmless⟩

/-- Plain text goes before anything. -/
theorem plain_append (plain : Plain a) (second : Fragment filtered b ms) :
    Fragment filtered (a ++ b) ms :=
  chars_append plain.chars (fun _ => plain.calm) second

theorem plain (plain : Plain a) : Fragment filtered a [] := by
  simpa using plain_append plain nil

/-- Plain text that keeps apart goes behind anything. -/
theorem append_plain (first : Fragment filtered a ns) (sep : Separator b) :
    Fragment filtered (a ++ b) ns := by
  simpa using first.append (.plain sep.plain) sep.apart

theorem quotePart {part : Text} (noNul : Char.ofNat 0 ∉ part) :
    Fragment filtered (Ident.quotePart part) [] := by
  refine ⟨?_, ['"', '"'], ?_, by decide, by decide, fun _ => by decide⟩
  · simp only [Ident.quotePart, Ident.doubleQuotes, List.cons_append, List.mem_cons,
      List.mem_append, List.mem_flatMap, not_or]
    refine ⟨by decide, ?_, by decide, by simp⟩
    rintro ⟨c, member, among⟩
    split at among
    · revert among
      decide
    · rw [List.mem_singleton] at among
      exact noNul (among ▸ member)
  · have alone := outside?_quotePart part (show ([] : Text).head? ≠ some '"' by simp)
    simpa using alone

theorem placeholder (n : Nat) : Fragment filtered ('$' :: Nat.toDigits 10 n) [n] := by
  have bare : ∀ c ∈ '$' :: Nat.toDigits 10 n, c ≠ '"' := by
    rintro c member rfl
    rcases List.mem_cons.1 member with quote | member
    · revert quote
      decide
    · exact notMem_toDigits rfl member
  have harmless : ∀ c ∈ '$' :: Nat.toDigits 10 n, isHarmless c = true := by
    intro c member
    rcases List.mem_cons.1 member with rfl | member
    · decide
    · have digit := isDigit_of_mem_toDigits member
      rw [isHarmless, decide_eq_true_iff]
      intro among
      have none : ∀ d ∈ forbidden, d.isDigit = false := by decide
      rw [none c among] at digit
      cases digit
  have single : ' ' ∉ '$' :: Nat.toDigits 10 n := by
    rw [List.mem_cons, not_or]
    exact ⟨by decide, notMem_toDigits rfl⟩
  refine ⟨fun member => ?_, _, ?_, numbers_placeholder n, harmless, fun _ =>
    .of_notMem single (by simp)⟩
  · have := harmless _ member
    revert this
    decide
  · simpa using outside?_append_of_bare bare []

/-- Plain text keeps two fragments apart. -/
theorem between {s : Text} (first : Fragment filtered a ns) (sep : Separator s)
    (second : Fragment filtered b ms) : Fragment filtered (a ++ s ++ b) (ns ++ ms) := by
  rw [List.append_assoc]
  exact first.append (plain_append sep.plain second) (sep.before b).apart

theorem join {s : Text} (sep : Separator s) {texts : List Text}
    (each : ∀ t ∈ texts, Fragment filtered t []) : Fragment filtered (Text.join s texts) [] := by
  induction texts with
  | nil => exact nil
  | cons t texts ih =>
    obtain ⟨first, later⟩ := List.forall_mem_cons.1 each
    cases texts with
    | nil => exact first
    | cons u texts => exact first.between sep (ih later)

theorem bracketed (fragment : Fragment filtered a ns) :
    Fragment filtered (Predicate.bracketed a) ns :=
  plain_append (a := ['(']) (by decide) (fragment.append_plain (by decide))

/-- Without a WHERE clause there is no such word. -/
theorem not_hasWord (fragment : Fragment false a ns) : ¬HasWord "WHERE" a := by
  rintro ⟨u, scanned, member⟩
  obtain ⟨v, again, -, -, calm⟩ := fragment.bare
  obtain rfl : u = v := Option.some.inj (scanned.symm.trans again)
  exact calm rfl _ member (by decide)

theorem where_append (second : Fragment true b ms) : Fragment true (" WHERE " ++ b) ms :=
  chars_append (by decide) (fun none => nomatch none) second

theorem hasWord_where (first : Fragment filtered a ns) (second : Fragment filtered b ms) :
    HasWord "WHERE" (a ++ " WHERE " ++ b) := by
  obtain ⟨u, scanned, -⟩ := first.bare
  obtain ⟨v, scannedLater, -⟩ := second.bare
  refine ⟨u ++ (" WHERE " ++ v), ?_, ?_⟩
  · rw [List.append_assoc, outside?_append scanned (Opens.before (by decide) b).apart.head?_ne,
      outside?_append_of_bare (by decide), scannedLater]
    rfl
  · have spelled : " WHERE " ++ v = ' ' :: (("WHERE" : Text) ++ ' ' :: v) := rfl
    rw [spelled, Text.splitOn_append_cons, Text.splitOn_append_cons, List.mem_append,
      List.mem_append]
    exact .inr (.inl (by decide))

end Fragment

end Sql

end FluentQuery
