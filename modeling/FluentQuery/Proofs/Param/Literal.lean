import FluentQuery.Wire.Param
import FluentQuery.Proofs.Json.Printer
import FluentQuery.Proofs.Sql.Reading
import Mathlib.Data.List.DropRight

/-! Array literals as a server reads them. Braces nest, commas separate, blanks around elements are
skipped, a backslash in quotes takes the next character as it is, and the word NULL without quotes
is null. What an array is encoded to is read back element by element, at every depth. That the
arrays on one level are of one length, as a server wants it, is not asked for here. -/
namespace FluentQuery.Param

open Sql.Condition (chain chain_join)
open Json (integerText isNumberChar)

/-- What stands in an array literal. -/
inductive Element where
  | null
  | text (t : Text)
  | array (items : List Element)

namespace Element

/-! Reading -/

def isBlank (c : Char) : Bool :=
  c ∈ [' ', '\t', '\n', '\r', '\x0b', '\x0c']

/-- The characters that mean something outside quotes. -/
def isStructural (c : Char) : Bool :=
  c ∈ ['\x7b', '\x7d', ',', '"', '\\']

def skipBlanks (t : Text) : Text :=
  t.dropWhile isBlank

/-- The content of quotes that have been opened, and what follows them. -/
def quoted? : Text → Option (Text × Text)
  | [] => none
  | '"' :: rest => some ([], rest)
  | '\\' :: c :: rest => (quoted? rest).map fun (t, after) => (c :: t, after)
  | c :: rest => (quoted? rest).map fun (t, after) => (c :: t, after)

/-- An element without quotes, blanks behind it left off; there has to be something. -/
def bare? (t : Text) : Option (Element × Text) :=
  let word := (t.takeWhile fun c => !isStructural c).rdropWhile isBlank
  if word = [] then none
  else
    some (if Text.lowerAscii word = "null" then .null else .text word,
      t.dropWhile fun c => !isStructural c)

/-- The elements behind an opening brace, and what follows the closing one. -/
def items? (item : Text → Option (Element × Text)) (t : Text) : Option (List Element × Text) :=
  match skipBlanks t with
  | '\x7d' :: after => some ([], after)
  | t =>
    match chain [','] item t with
    | some (items, '\x7d' :: after) => some (items, after)
    | _ => none

/-- An element with fewer than `depth` braces around one another, and what follows it. -/
def value? : (depth : Nat) → Text → Option (Element × Text)
  | 0, _ => none
  | depth + 1, t =>
    match skipBlanks t with
    | '\x7b' :: rest =>
      (items? (value? depth) rest).map fun (items, after) => (.array items, skipBlanks after)
    | '"' :: rest => (quoted? rest).map fun (t, after) => (.text t, skipBlanks after)
    | rest => bare? rest

/-- The array that is the whole text. -/
def read? (t : Text) : Option Element :=
  match value? t.length t with
  | some (.array items, []) => some (.array items)
  | _ => none

/-! What is to be read -/

mutual

/-- A value as an element: null, an array of elements, a string as it is, any other value as its
JSON text. -/
def ofJson : Json → Element
  | .null => .null
  | .bool b => .text (if b then "true" else "false")
  | .int i => .text (integerText i)
  | .float x => .text x.render
  | .str t => .text t
  | .arr items => .array (ofItems items)
  | .obj members => .text (Json.obj members).render

def ofItems : List Json → List Element
  | [] => []
  | v :: rest => ofJson v :: ofItems rest

end

theorem ofItems_eq_map (items : List Json) : ofItems items = items.map ofJson := by
  induction items with
  | nil => rfl
  | cons v rest ih => rw [ofItems, ih, List.map_cons]

/-! Texts -/

/-- What may stand behind an element. -/
def Follows (rest : Text) : Prop :=
  ∀ c ∈ rest.head?, c = ',' ∨ c = '\x7d'

theorem Follows.stop {p : Char → Bool} {rest : Text} (follows : Follows rest)
    (comma : p ',' = false) (brace : p '\x7d' = false) : ∀ c ∈ rest.head?, p c = false := by
  intro c head
  rcases follows c head with rfl | rfl
  · exact comma
  · exact brace

theorem skipBlanks_of_stop {t : Text} (stop : ∀ c ∈ t.head?, isBlank c = false) :
    skipBlanks t = t :=
  Text.dropWhile_append_of_head? (a := []) (fun _ member => nomatch member) stop

/-- A text that stands for itself without quotes. -/
structure Bare (t : Text) : Prop where
  filled : t ≠ []
  chars : ∀ c ∈ t, isStructural c = false ∧ isBlank c = false
  notNull : Text.lowerAscii t ≠ "null"

variable {t rest : Text}

/-- Without quotes a text is read up to the next character with a meaning. -/
theorem bare?_append (filled : t ≠ [])
    (chars : ∀ c ∈ t, isStructural c = false ∧ isBlank c = false) (follows : Follows rest) :
    bare? (t ++ rest) =
      some (if Text.lowerAscii t = "null" then .null else .text t, rest) := by
  have inside : ∀ c ∈ t, (!isStructural c) = true := fun c member => by simp [(chars c member).1]
  have stop : ∀ c ∈ rest.head?, (!isStructural c) = false := follows.stop rfl rfl
  have whole : t.rdropWhile isBlank = t := by
    rw [List.rdropWhile_eq_self_iff]
    exact fun some => by simp [(chars _ (List.getLast_mem some)).2]
  simp only [bare?, Text.takeWhile_append_of_head? inside stop,
    Text.dropWhile_append_of_head? inside stop, whole, if_neg filled]

theorem quoted?_quotedElement (t rest : Text) :
    quoted? (t.flatMap (fun c => if c = '"' ∨ c = '\\' then ['\\', c] else [c]) ++ '"' :: rest) =
      some (t, rest) := by
  induction t with
  | nil => rw [List.flatMap_nil, List.nil_append, quoted?]
  | cons c t ih =>
    rw [List.flatMap_cons]
    split
    · rw [List.append_assoc, List.cons_append, List.singleton_append, quoted?, ih, Option.map_some]
    · next plain =>
      rw [not_or] at plain
      rw [List.append_assoc, List.singleton_append, quoted?, ih, Option.map_some]
      · exact plain.1
      · exact fun _ _ slash => absurd slash plain.2

/-! Numbers and truth values -/

theorem toLower_of_isNumberChar {c : Char} (number : isNumberChar c = true) : c.toLower = c := by
  simp only [isNumberChar, Bool.or_eq_true, decide_eq_true_eq] at number
  rcases number with (((digit | rfl) | rfl) | rfl) | rfl
  · refine dif_neg fun upper => ?_
    have first : 65 ≤ c.val.toNat := UInt32.le_iff_toNat_le.1 upper.1
    have last : c.val.toNat ≤ 57 := by
      simp only [Char.isDigit, Bool.and_eq_true, decide_eq_true_eq] at digit
      exact UInt32.le_iff_toNat_le.1 digit.2
    omega
  all_goals rfl

theorem Bare.number (filled : t ≠ []) (number : ∀ c ∈ t, isNumberChar c = true) : Bare t := by
  refine ⟨filled, fun c member => ?_, fun null => ?_⟩
  · have each : ∀ d ∈ ['\x7b', '\x7d', ',', '"', '\\', ' ', '\t', '\n', '\r', '\x0b', '\x0c'],
        isNumberChar d = false := by decide
    simp only [isStructural, isBlank, decide_eq_false_iff_not]
    constructor <;>
    · intro among
      have other := each c (by simp at among ⊢; tauto)
      cases other.symm.trans (number c member)
  · have inside : 'n' ∈ t.map Char.toLower := by
      rw [← Text.lowerAscii, null]
      decide
    obtain ⟨c, member, lower⟩ := List.mem_map.1 inside
    rw [toLower_of_isNumberChar (number c member)] at lower
    have digit := number c member
    rw [lower] at digit
    cases digit

theorem bare_boolean (b : Bool) : Bare (if b then "true" else "false" : Text) := by
  cases b
  · exact ⟨by decide, by decide, by decide⟩
  · exact ⟨by decide, by decide, by decide⟩

theorem bare_integerText (i : Int) : Bare (integerText i) := by
  refine .number ?_ (Json.isNumberChar_integerText i)
  obtain ⟨digits, -, filled, text⟩ := Json.exists_integerText i
  rcases text with text | text <;> rw [text]
  · exact filled
  · exact List.cons_ne_nil _ _

theorem bare_render (x : Binary64) : Bare x.render := by
  refine .number ?_ (Json.isNumberChar_float x)
  obtain ⟨t, v, numeral, text⟩ := Json.exists_render_float x
  obtain ⟨d, rest, head, -⟩ := numeral.head
  rcases text with text | text <;> rw [text]
  · rw [head]
    exact List.cons_ne_nil _ _
  · exact List.cons_ne_nil _ _

/-! Elements -/

theorem elements_eq_join (items : List Json) :
    elements items = Text.join [','] (items.map element) := by
  induction items with
  | nil => rfl
  | cons v rest ih =>
    cases rest with
    | nil => rfl
    | cons w rest =>
      rw [elements, ih, List.map_cons, List.map_cons, List.map_cons, Text.join_cons_cons,
        List.append_assoc]
      rfl

/-- What opens an element is neither a blank nor what closes an array. -/
theorem exists_head (v : Json) :
    ∃ c more, element v = c :: more ∧ c ≠ '\x7d' ∧ isBlank c = false := by
  have bare {t : Text} (bare : Bare t) :
      ∃ c more, t = c :: more ∧ c ≠ '\x7d' ∧ isBlank c = false := by
    obtain ⟨c, more, rfl⟩ := List.exists_cons_of_ne_nil bare.filled
    obtain ⟨plain, solid⟩ := bare.chars c List.mem_cons_self
    refine ⟨c, more, rfl, ?_, solid⟩
    rintro rfl
    cases plain
  cases v with
  | null => exact ⟨_, _, rfl, by decide, rfl⟩
  | bool b =>
    cases b
    · exact bare (bare_boolean false)
    · exact bare (bare_boolean true)
  | int i => exact bare (bare_integerText i)
  | float x => exact bare (bare_render x)
  | str t => exact ⟨_, _, by rw [element, quotedElement]; rfl, by decide, rfl⟩
  | arr items => exact ⟨_, _, by rw [element, braced]; rfl, by decide, rfl⟩
  | obj members => exact ⟨_, _, by rw [element, quotedElement]; rfl, by decide, rfl⟩

section

variable {n : Nat}

theorem value?_bare (bare : Bare t) (follows : Follows rest) :
    value? (n + 1) (t ++ rest) = some (.text t, rest) := by
  obtain ⟨c, more, rfl⟩ := List.exists_cons_of_ne_nil bare.filled
  obtain ⟨plain, solid⟩ := bare.chars c List.mem_cons_self
  have kept : skipBlanks (c :: more ++ rest) = c :: more ++ rest :=
    skipBlanks_of_stop (by rintro d ⟨⟩; exact solid)
  have read := bare?_append bare.filled bare.chars follows
  rw [if_neg bare.notNull] at read
  rw [value?, kept]
  split
  · next same =>
    cases same
    cases plain
  · next same =>
    cases same
    cases plain
  · exact read

theorem value?_null (follows : Follows rest) :
    value? (n + 1) ("NULL" ++ rest) = some (.null, rest) := by
  have read : bare? ("NULL" ++ rest) = some (.null, rest) :=
    bare?_append (by decide) (by decide) follows
  exact read

theorem value?_quoted (t : Text) (follows : Follows rest) :
    value? (n + 1) (quotedElement t ++ rest) = some (.text t, rest) := by
  have kept : skipBlanks rest = rest := skipBlanks_of_stop (follows.stop rfl rfl)
  have spelled : quotedElement t ++ rest = '"' :: (t.flatMap
      (fun c => if c = '"' ∨ c = '\\' then ['\\', c] else [c]) ++ '"' :: rest) := by
    simp [quotedElement]
  have opens (u : Text) : skipBlanks ('"' :: u) = '"' :: u :=
    skipBlanks_of_stop (by rintro c ⟨⟩; rfl)
  rw [spelled, value?, opens]
  simp only [quoted?_quotedElement, Option.map_some, kept]

theorem items?_nil (item : Text → Option (Element × Text)) :
    items? item ('\x7d' :: rest) = some ([], rest) := rfl

/-- Elements that are each read before a comma and before a brace are read together. -/
theorem items?_cons {item : Text → Option (Element × Text)} {v : Json} {items : List Json}
    {read : List Element}
    (each : List.Forall₂ (fun t a => ∀ rest, Follows rest → item (t ++ rest) = some (a, rest))
      ((v :: items).map element) read) :
    items? item (elements (v :: items) ++ '\x7d' :: rest) = some (read, rest) := by
  have whole : chain [','] item (elements (v :: items) ++ '\x7d' :: rest) =
      some (read, '\x7d' :: rest) := by
    rw [elements_eq_join]
    refine chain_join Follows (by decide) each ?_ ?_
      (Text.isPrefixOf?_eq_none (c := ',') rfl (by simp)) (List.cons_ne_nil _ _)
    · rintro more c ⟨⟩
      exact .inl rfl
    · rintro c ⟨⟩
      exact .inr rfl
  obtain ⟨c, more, first, other, solid⟩ := exists_head v
  obtain ⟨later, opens⟩ : ∃ later, elements (v :: items) ++ '\x7d' :: rest = c :: later := by
    cases items <;> exact ⟨_, by rw [elements, first]; rfl⟩
  have kept : skipBlanks (c :: later) = c :: later :=
    skipBlanks_of_stop (by rintro d ⟨⟩; exact solid)
  rw [opens] at whole ⊢
  rw [items?, kept]
  split
  · next same => exact absurd (List.cons.inj same).1 other
  · simp only [whole]

mutual

/-- Every value is read back, whatever follows it in an array. -/
theorem value?_element : (v : Json) → {n : Nat} → {rest : Text} → (element v).length ≤ n →
    Follows rest → value? n (element v ++ rest) = some (ofJson v, rest)
  | v, 0, _, enough, _ => by
    obtain ⟨c, more, first, -⟩ := exists_head v
    simp [first] at enough
  | .null, n + 1, _, _, follows => value?_null follows
  | .bool true, n + 1, _, _, follows => value?_bare (bare_boolean true) follows
  | .bool false, n + 1, _, _, follows => value?_bare (bare_boolean false) follows
  | .int i, n + 1, _, _, follows => value?_bare (bare_integerText i) follows
  | .float x, n + 1, _, _, follows => value?_bare (bare_render x) follows
  | .str t, n + 1, _, _, follows => value?_quoted t follows
  | .obj members, n + 1, _, _, follows => value?_quoted _ follows
  | .arr items, n + 1, rest, enough, follows => by
    have kept : skipBlanks rest = rest := skipBlanks_of_stop (follows.stop rfl rfl)
    have spelled : element (.arr items) ++ rest =
        '\x7b' :: (elements items ++ '\x7d' :: rest) := by
      simp [element, braced]
    have opens (u : Text) : skipBlanks ('\x7b' :: u) = '\x7b' :: u :=
      skipBlanks_of_stop (by rintro c ⟨⟩; rfl)
    have short : ∀ v ∈ items, (element v).length ≤ n := by
      intro v member
      have within : (element v).length ≤ (Text.join [','] (items.map element)).length :=
        Text.length_le_join (List.mem_map_of_mem member)
      rw [← elements_eq_join] at within
      simp only [element, braced, List.length_append, List.length_cons, List.length_nil] at enough
      omega
    have inner : items? (value? n) (elements items ++ '\x7d' :: rest) =
        some (ofItems items, rest) := by
      cases items with
      | nil => exact items?_nil _
      | cons v items => exact items?_cons (value?_elements (v :: items) short)
    rw [spelled, value?, opens]
    simp only [inner, Option.map_some, kept, ofJson]

theorem value?_elements : (items : List Json) → {n : Nat} →
    (∀ v ∈ items, (element v).length ≤ n) →
    List.Forall₂ (fun t a => ∀ rest, Follows rest → value? n (t ++ rest) = some (a, rest))
      (items.map element) (ofItems items)
  | [], _, _ => .nil
  | v :: items, _, short =>
    .cons (fun _ follows => value?_element v (short v List.mem_cons_self) follows)
      (value?_elements items fun w member => short w (List.mem_cons_of_mem _ member))

end

end

/-- What an array is encoded to reads as its values, one by one and level by level: null as null, an
array as its values again, a string as it is, whatever its characters, and any other value as its
JSON text. -/
theorem read?_arrayLiteral (items : List Json) :
    read? (arrayLiteral (.arr items)) = some (.array (items.map ofJson)) := by
  have ends : Follows [] := fun _ head => nomatch head
  have whole := value?_element (.arr items) (Nat.le_refl _) ends
  rw [List.append_nil, ofJson, ofItems_eq_map] at whole
  rw [read?, arrayLiteral, ← element, whole]

/-- Bare elements and blanks, as a server writes them, are read as well. -/
example : read? "\x7b a , \"\x7d\" , null, \x7b\"\"\x7d \x7d" =
    some (.array [.text "a", .text "\x7d", .null, .array [.text []]]) := by
  cbv

end Element

end FluentQuery.Param
