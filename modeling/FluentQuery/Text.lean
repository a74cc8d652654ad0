/-! Text as a list of characters, so that every scanner of the library is a recursion on the
data, with the few cuts and joins that the SQL and filter grammars need. -/
namespace FluentQuery

-- Powers of numbers are those of the core library, also where other modules import more.
attribute [instance (high), default_instance 10001] instPowNat

abbrev Text := List Char

/-- Literals are written as strings. -/
instance : Coe String Text := ⟨String.toList⟩

namespace Text

/-! What holds of the characters of a text is decided over the text, not over all characters. -/

instance (priority := high) decidableForall (p : Char → Prop) [DecidablePred p] (t : Text) :
    Decidable (∀ c ∈ t, p c) :=
  List.decidableBAll p t

instance (priority := high) decidableForallOption (p : Char → Prop) [DecidablePred p]
    (o : Option Char) : Decidable (∀ c ∈ o, p c) :=
  o.decidableForallMem

/-- A decimal number of ASCII digits, perhaps after a plus sign, that is at most `limit`. -/
def readNat? (limit : Nat) (t : Text) : Option Nat :=
  let digits := match t with
    | '+' :: rest => rest
    | rest => rest
  if digits = [] ∨ !digits.all Char.isDigit then none
  else
    let n := Nat.ofDigitChars 10 digits 0
    if n ≤ limit then some n else none

/-- The pieces with `sep` between neighbours. -/
def join (sep : Text) : List Text → Text
  | [] => []
  | [t] => t
  | t :: u :: rest => t ++ sep ++ join sep (u :: rest)

/-- What stands before and after the first `sep`. -/
def cut? (sep : Char) : Text → Option (Text × Text)
  | [] => none
  | c :: rest =>
    if c = sep then some ([], rest)
    else (cut? sep rest).map fun (before, after) => (c :: before, after)

/-- What stands before and after the first occurrence of the text `sep`. -/
def cutText? (sep : Text) : Text → Option (Text × Text)
  | [] => if sep.isEmpty then some ([], []) else none
  | c :: rest =>
    match sep.isPrefixOf? (c :: rest) with
    | some after => some ([], after)
    | none => (cutText? sep rest).map fun (before, after) => (c :: before, after)

/-- The text before its last character, if that is `c`. -/
def dropEnd? (c : Char) : Text → Option Text
  | [] => none
  | [d] => if d = c then some [] else none
  | d :: e :: rest => (dropEnd? c (e :: rest)).map (d :: ·)

/-- What stands between an opening and a closing text that meet the two ends. -/
def between? (opening : Text) (closing : Char) (t : Text) : Option Text :=
  (opening.isPrefixOf? t).bind (dropEnd? closing)

/-- The pieces between separators; one more than there are separators. -/
def splitOn (sep : Char) : Text → List Text
  | [] => [[]]
  | c :: rest =>
    if c = sep then [] :: splitOn sep rest
    else
      match splitOn sep rest with
      | [] => [[c]]
      | piece :: pieces => (c :: piece) :: pieces

/-- Whether `part` occurs in the text. -/
def contains (part : Text) : Text → Bool
  | [] => part.isEmpty
  | c :: rest => part.isPrefixOf (c :: rest) || contains part rest

/-- ASCII letters in lower case, all else unchanged. -/
def lowerAscii (t : Text) : Text := t.map Char.toLower

@[simp] theorem join_nil (sep : Text) : join sep [] = [] := rfl

@[simp] theorem join_singleton (sep t : Text) : join sep [t] = t := rfl

theorem join_cons_cons (sep t u : Text) (rest : List Text) :
    join sep (t :: u :: rest) = t ++ sep ++ join sep (u :: rest) := rfl

/-- Nothing is lost by a cut, and the first part holds no separator. -/
theorem eq_of_cut? {sep : Char} {t before after : Text} (h : cut? sep t = some (before, after)) :
    t = before ++ sep :: after ∧ sep ∉ before := by
  induction t generalizing before with
  | nil => simp [cut?] at h
  | cons c rest ih =>
    by_cases hc : c = sep
    · subst hc
      simp [cut?] at h
      obtain ⟨rfl, rfl⟩ := h
      simp
    · simp [cut?, hc] at h
      obtain ⟨b, hb, rfl⟩ := h
      obtain ⟨rfl, hn⟩ := ih hb
      simp [hn, Ne.symm hc]

theorem cut?_append {sep : Char} {before : Text} (after : Text) (h : sep ∉ before) :
    cut? sep (before ++ sep :: after) = some (before, after) := by
  induction before with
  | nil => simp [cut?]
  | cons c rest ih =>
    simp at h
    simp [cut?, Ne.symm h.1, ih h.2]

theorem cut?_eq_none {sep : Char} {t : Text} : cut? sep t = none ↔ sep ∉ t := by
  induction t with
  | nil => simp [cut?]
  | cons c rest ih =>
    by_cases hc : c = sep
    · simp [cut?, hc]
    · simp [cut?, hc, ih, Ne.symm hc]

theorem dropEnd?_eq_some {c : Char} {t u : Text} : dropEnd? c t = some u ↔ t = u ++ [c] := by
  induction t using dropEnd?.induct c generalizing u with
  | case1 => simp [dropEnd?]
  | case2 => cases u with
    | nil => simp [dropEnd?]
    | cons x xs => simp [dropEnd?]
  | case3 d h => cases u with
    | nil => simp [dropEnd?, h]
    | cons x xs => simp [dropEnd?, h]
  | case4 d e rest ih =>
    cases u with
    | nil => simp [dropEnd?]
    | cons x xs =>
      simp only [dropEnd?, Option.map_eq_some_iff, ih, List.cons_append, List.cons.injEq]
      constructor
      · rintro ⟨_, h, rfl, rfl⟩
        exact ⟨rfl, h⟩
      · rintro ⟨rfl, h⟩
        exact ⟨xs, h, rfl, rfl⟩

theorem isPrefixOf?_eq_some {p t rest : Text} : p.isPrefixOf? t = some rest ↔ t = p ++ rest := by
  induction p generalizing t with
  | nil =>
    change some t = some rest ↔ t = rest
    exact Option.some_inj
  | cons c p ih =>
    cases t with
    | nil =>
      change none = some rest ↔ _
      simp
    | cons d t =>
      change (if c == d then p.isPrefixOf? t else none) = some rest ↔ _
      by_cases h : c = d
      · simp [h, ih]
      · simp [h, Ne.symm h]

theorem between?_eq_some {opening t inner : Text} {closing : Char} :
    between? opening closing t = some inner ↔ t = opening ++ inner ++ [closing] := by
  simp only [between?, Option.bind_eq_some_iff, isPrefixOf?_eq_some, dropEnd?_eq_some]
  constructor
  · rintro ⟨_, rfl, rfl⟩
    simp
  · rintro rfl
    exact ⟨inner ++ [closing], by simp, rfl⟩

theorem splitOn_ne_nil (sep : Char) (t : Text) : splitOn sep t ≠ [] := by
  cases t with
  | nil => simp [splitOn]
  | cons c rest =>
    by_cases h : c = sep
    · simp [splitOn, h]
    · simp only [splitOn, h, if_false]
      split <;> simp

end Text

end FluentQuery
