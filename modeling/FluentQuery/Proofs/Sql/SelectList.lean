import FluentQuery.Proofs.Ident
import FluentQuery.Proofs.Sql.Reading

/-! Reading the SQL of a select list. Its items are the star, for all columns, and columns by their
names, each perhaps with a cast and with a label. What columns and the additions of a projection are
written as is read back, item by item. -/
namespace FluentQuery

theorem Ident.exists_sql_cons {parts : List Text} (filled : parts ≠ []) :
    ∃ more, sql ⟨parts⟩ = '"' :: more := by
  obtain ⟨part, parts, rfl⟩ := List.exists_cons_of_ne_nil filled
  cases parts <;> exact ⟨_, rfl⟩

namespace Sql

/-- An item of a select list. -/
inductive Item where
  | all
  | column (parts : List Text) (cast label : Option Text)
deriving DecidableEq, Repr

namespace Item

open Condition (chain part?)

/-- The characters of types: those of words, and the brackets of arrays. -/
def isTypeChar (c : Char) : Bool :=
  Text.isWordChar c || c = '[' || c = ']'

/-- The type behind a doubled colon, if one stands at the head, and what follows. -/
def cast? (t : Text) : Option Text × Text :=
  match ("::" : Text).isPrefixOf? t with
  | some rest => (some (rest.takeWhile isTypeChar), rest.dropWhile isTypeChar)
  | none => (none, t)

/-- The label behind AS, if one stands at the head, and what follows. -/
def label? (t : Text) : Option Text × Text :=
  match ((" AS " : Text).isPrefixOf? t).bind part? with
  | some (label, rest) => (some label, rest)
  | none => (none, t)

/-- The item at the head of a text, and what follows it. -/
def read? : Text → Option (Item × Text)
  | '*' :: rest => some (.all, rest)
  | t => (chain ['.'] part? t).map fun (parts, rest) =>
    let (cast, rest) := cast? rest
    let (label, rest) := label? rest
    (.column parts cast label, rest)

/-- The items of a whole select list; one without items is empty. -/
def readAll? (t : Text) : Option (List Item) :=
  if t = [] then some []
  else
    match chain ", " read? t with
    | some (items, []) => some items
    | _ => none

/-! How items are written -/

def castText : Option Text → Text
  | some type => "::" ++ type
  | none => []

def labelText : Option Text → Text
  | some label => " AS " ++ Ident.quotePart label
  | none => []

def text : Item → Text
  | .all => ['*']
  | .column parts cast label => Ident.sql ⟨parts⟩ ++ castText cast ++ labelText label

/-- Names have parts, and types have characters of types. -/
def Written : Item → Prop
  | .all => True
  | .column parts cast _ => parts ≠ [] ∧ ∀ type ∈ cast, ∀ c ∈ type, isTypeChar c = true

theorem text_ne_nil {item : Item} (written : item.Written) : item.text ≠ [] := by
  cases item with
  | all => simp [text]
  | column parts cast label =>
    obtain ⟨more, quoted⟩ := Ident.exists_sql_cons written.1
    simp [text, quoted]

/-! Reading back -/

variable {rest : Text}

theorem cast?_castText {cast : Option Text}
    (typed : ∀ type ∈ cast, ∀ c ∈ type, isTypeChar c = true)
    (stop : ∀ c ∈ rest.head?, isTypeChar c = false) (bare : rest.head? ≠ some ':') :
    cast? (castText cast ++ rest) = (cast, rest) := by
  cases cast with
  | none =>
    have other : ("::" : Text).isPrefixOf? rest = none := Text.isPrefixOf?_eq_none rfl bare
    rw [castText, List.nil_append, cast?, other]
  | some type =>
    have inside := typed type rfl
    rw [castText, List.append_assoc, cast?, Text.isPrefixOf?_append]
    simp only [Text.takeWhile_append_of_head? inside stop,
      Text.dropWhile_append_of_head? inside stop]

theorem label?_labelText (label : Option Text) (ends : ∀ c ∈ rest.head?, c = ',') :
    label? (labelText label ++ rest) = (label, rest) := by
  cases label with
  | none =>
    have other : (" AS " : Text).isPrefixOf? rest = none :=
      Text.isPrefixOf?_eq_none (c := ' ') rfl fun head => by simpa using ends _ head
    rw [labelText, List.nil_append, label?, other]
    rfl
  | some label =>
    have apart : rest.head? ≠ some '"' := fun head => by simpa using ends _ head
    have read : part? (Ident.quotePart label ++ rest) = some (label, rest) := by
      rw [Ident.quotePart, List.cons_append, List.cons_append, List.append_assoc]
      exact Condition.quotedPart?_doubleQuotes label apart
    rw [labelText, List.append_assoc, label?, Text.isPrefixOf?_append, Option.bind_some, read]

/-- An item is read back before a comma and at the end. -/
theorem read?_text {item : Item} (written : item.Written) (ends : ∀ c ∈ rest.head?, c = ',') :
    read? (item.text ++ rest) = some (item, rest) := by
  cases item with
  | all => rfl
  | column parts cast label =>
    obtain ⟨filled, typed⟩ := written
    have labelled : ∀ c ∈ (labelText label ++ rest).head?, c = ' ' ∨ c = ',' := by
      cases label with
      | none => exact fun c head => .inr (ends c head)
      | some label =>
        rintro c ⟨⟩
        exact .inl rfl
    have behind : ∀ c ∈ (castText cast ++ (labelText label ++ rest)).head?,
        c = ':' ∨ c = ' ' ∨ c = ',' := by
      cases cast with
      | none => exact fun c head => .inr (labelled c head)
      | some type =>
        rintro c ⟨⟩
        exact .inl rfl
    have named :
        chain ['.'] part? (Ident.sql ⟨parts⟩ ++ (castText cast ++ (labelText label ++ rest))) =
        some (parts, castText cast ++ (labelText label ++ rest)) :=
      Condition.chain_sql filled (fun head => by simpa using behind _ head)
        (fun head => by simpa using behind _ head)
    have stop : ∀ c ∈ (labelText label ++ rest).head?, isTypeChar c = false := by
      intro c head
      rcases labelled c head with rfl | rfl <;> rfl
    have bare : (labelText label ++ rest).head? ≠ some ':' :=
      fun head => by simpa using labelled _ head
    rw [text, List.append_assoc, List.append_assoc, read?, named]
    · simp only [Option.map_some, cast?_castText typed stop bare, label?_labelText label ends]
    · obtain ⟨quoted, opens⟩ := Ident.exists_sql_cons filled
      rw [opens]
      rintro more ⟨⟩

theorem readAll?_texts {items : List Item} (written : ∀ item ∈ items, item.Written) :
    readAll? (Text.join ", " (items.map text)) = some items := by
  have empty_iff : Text.join ", " (items.map text) = [] ↔ items = [] := by
    rw [Text.join_eq_nil_iff, List.map_eq_nil_iff]
    intro t member
    obtain ⟨item, among, rfl⟩ := List.mem_map.1 member
    exact text_ne_nil (written item among)
  unfold readAll?
  by_cases empty : items = []
  · rw [if_pos (empty_iff.2 empty), empty]
  · have read : chain ", " read? (Text.join ", " (items.map text) ++ []) = some (items, []) := by
      refine Condition.chain_join (fun rest => ∀ c ∈ rest.head?, c = ',') (by decide) ?_ ?_
        (fun _ head => nomatch head) (Text.isPrefixOf?_eq_none (c := ',') rfl (by simp))
        (by simpa using empty)
      · rw [List.forall₂_map_left_iff, List.forall₂_same]
        exact fun item member rest ends => read?_text (written item member) ends
      · rintro more c ⟨⟩
        rfl
    rw [List.append_nil] at read
    rw [if_neg fun none => empty (empty_iff.1 none), read]

end Item

end Sql

/-! Columns as items -/

namespace Column

open Sql (Item)

theorem isTypeChar_of_isWord {t : Text} (word : Text.isWord t = true) :
    ∀ c ∈ t, Item.isTypeChar c = true := by
  simp only [Text.isWord, Bool.and_eq_true, List.all_eq_true] at word
  exact fun c member => by simp [Item.isTypeChar, word.2 c member]

theorem isTypeChar_of_isCast {t : Text} (cast : isCast t = true) :
    ∀ c ∈ t, Item.isTypeChar c = true := by
  unfold isCast at cast
  split at cast
  · next rest closed =>
    split at cast
    · next word opened =>
      rw [Text.dropEnd?_eq_some] at closed opened
      subst closed opened
      simp only [List.mem_append, List.mem_singleton]
      rintro c ((member | rfl) | rfl)
      · exact isTypeChar_of_isWord cast c member
      · rfl
      · rfl
    · cases cast
  · exact isTypeChar_of_isWord cast

/-- The label that a column is written with: its key, unless that is plain from the name. -/
def writtenLabel (i : Ident) (cast label : Option Text) : Option Text :=
  if label.isSome || cast.isSome || 1 < i.parts.length then some (label.getD i.name) else none

theorem getD_writtenLabel (i : Ident) (cast label : Option Text) :
    (writtenLabel i cast label).getD i.name = label.getD i.name := by
  unfold writtenLabel
  cases label with
  | some label => rfl
  | none => split <;> rfl

theorem text_writtenLabel (i : Ident) (cast label : Option Text) :
    (Item.column i.parts cast (writtenLabel i cast label)).text =
      i.sql ++ (match cast with
        | some c => "::" ++ c
        | none => []) ++
        if label.isSome || cast.isSome || 1 < i.parts.length
          then " AS " ++ Ident.quotePart (label.getD i.name) else [] := by
  unfold writtenLabel
  cases cast <;> split <;> rfl

/-- A column is the star, or it is a name with its cast, under its label if it has one. It holds the
stored value of its name just when nothing is cast and the name is its key. -/
theorem cases_of_parse {token : Text} {column : Column} (parsed : parse token = .ok column) :
    column = ⟨Item.all.text, none, true⟩ ∨
      ∃ parts cast label, (Item.column parts cast label).Written ∧
        column.sql = (Item.column parts cast label).text ∧
        column.output = some (label.getD (Ident.name ⟨parts⟩)) ∧
        (column.raw = true ↔
          cast = none ∧ label.getD (Ident.name ⟨parts⟩) = Ident.name ⟨parts⟩) := by
  unfold parse at parsed
  split at parsed
  · cases parsed
    exact .inl rfl
  · simp only at parsed
    split at parsed
    · cases parsed
    · next ident read =>
      split at parsed
      · cases parsed
      · next casts =>
        split at parsed
        · cases parsed
        · next labels =>
          cases parsed
          generalize (cutLabel token).1 = label
          generalize (cutCast (cutLabel token).2).2 = cast at casts ⊢
          have typed : ∀ type ∈ cast, ∀ c ∈ type, Item.isTypeChar c = true := by
            rintro type rfl
            exact isTypeChar_of_isCast (by simpa using casts)
          refine .inr ⟨ident.parts, cast, writtenLabel ident cast label,
            ⟨Sql.Condition.parts_ne_nil read, typed⟩, (text_writtenLabel ident cast label).symm,
            congrArg some (getD_writtenLabel ident cast label).symm, ?_⟩
          rw [show Ident.name ⟨ident.parts⟩ = ident.name from rfl, getD_writtenLabel]
          simp

end Column

end FluentQuery
