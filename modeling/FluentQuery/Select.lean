import FluentQuery.Text.TopLevel
import FluentQuery.Text.Word

/-! Select expressions: plain columns and references to related tables, separated by commas. A
reference is `[label:]table[!hint…](body)`; its body is kept as text and read when the reference is
followed. What is no reference is a column. -/
namespace FluentQuery

structure Reference where
  /-- The key under which the related rows are attached. -/
  label : Text
  table : Text
  /-- The name of the foreign key to follow. -/
  hint : Option Text
  /-- Rows without a related row are dropped. -/
  inner : Bool
  body : Text
deriving DecidableEq, Repr

namespace Reference

/-- Whether the bracket that is open at `depth` closes at the last character. -/
def closesAtEnd (depth : Nat) : Text → Bool
  | [] => false
  | c :: rest =>
    if c = '(' then closesAtEnd (depth + 1) rest
    else if c = ')' then
      if depth ≤ 1 then rest.isEmpty else closesAtEnd (depth - 1) rest
    else closesAtEnd depth rest

def isHead (t : Text) : Bool :=
  !t.isEmpty && t.all fun c => Text.isWordChar c || c = ':' || c = '!'

/-- The suffixes after the table: `inner`, and the last other one as the hint. -/
def hints (suffixes : List Text) : Option Text × Bool :=
  let named := suffixes.filter fun s => !s.isEmpty
  let inner : Text := "inner"
  ((named.filter fun s => s ≠ inner).getLast?, named.contains inner)

/-- Label, table and hints of the text before the bracket. -/
def head? (t : Text) : Option (Text × Text × Option Text × Bool) :=
  if !isHead t then none
  else
    let (label, rest) := match Text.cut? ':' t with
      | some (label, rest) => (some label, rest)
      | none => (none, t)
    match Text.splitOn '!' rest with
    | [] => none
    | table :: suffixes =>
      let label := label.getD table
      if Text.isWord table && Text.isWord label then some (label, table, hints suffixes) else none

/-- A blank body selects every column. -/
def bodyText (inside : Text) : Text :=
  match Text.trim inside with
  | [] => ['*']
  | body => body

def parse? (token : Text) : Option Reference :=
  match Text.cut? '(' token with
  | none => none
  | some (before, after) =>
    match Text.dropEnd? ')' after with
    | none => none
    | some inside =>
      if closesAtEnd 1 after then
        (head? before).map fun (label, table, hint, inner) =>
          ⟨label, table, hint, inner, bodyText inside⟩
      else none

theorem length_bodyText (inside : Text) : (bodyText inside).length ≤ inside.length + 1 := by
  have := Text.length_trim_le inside
  unfold bodyText
  split
  · simp
  · omega

/-- A body is shorter than the token it stands in. -/
theorem length_of_parse? {token : Text} {r : Reference} (h : parse? token = some r) :
    r.body.length < token.length := by
  unfold parse? at h
  split at h
  · cases h
  · next before after hcut =>
    split at h
    · cases h
    · next inside hin =>
      split at h
      · obtain ⟨x, hx, rfl⟩ := Option.map_eq_some_iff.1 h
        obtain ⟨rfl, -⟩ := Text.eq_of_cut? hcut
        rw [Text.dropEnd?_eq_some] at hin
        subst hin
        have hne : before ≠ [] := by
          rintro rfl
          simp [head?, isHead] at hx
        have := List.length_pos_iff.2 hne
        have := length_bodyText inside
        simp
        omega
      · cases h

end Reference

inductive SelectItem where
  | column (token : Text)
  | reference (r : Reference)
deriving DecidableEq, Repr

namespace SelectItem

def ofToken (token : Text) : SelectItem :=
  match Reference.parse? token with
  | some r => .reference r
  | none => .column token

def column? : SelectItem → Option Text
  | .column token => some token
  | .reference _ => none

def reference? : SelectItem → Option Reference
  | .column _ => none
  | .reference r => some r

def parseAll (t : Text) : List SelectItem :=
  (Text.splitTopLevel t).map ofToken

end SelectItem

structure Selection where
  /-- The plain columns as one text; empty when there are references only. -/
  columns : Text
  references : List Reference
deriving DecidableEq, Repr

namespace Selection

/-- A blank expression selects every column. -/
def parse (t : Text) : Selection :=
  let t := Text.trim t
  if t = [] ∨ t = ['*'] then ⟨['*'], []⟩
  else
    let items := SelectItem.parseAll t
    ⟨Text.join ", " (items.filterMap SelectItem.column?), items.filterMap SelectItem.reference?⟩

def columnTokens (s : Selection) : List Text :=
  Text.splitTopLevel s.columns

/-- Bodies get shorter with every step down, so following references ends. -/
theorem length_of_mem_parse {t : Text} {r : Reference} (h : r ∈ (parse t).references) :
    r.body.length < t.length := by
  unfold parse at h
  simp only at h
  split at h
  · simp at h
  · obtain ⟨i, hi, hr⟩ := List.mem_filterMap.1 h
    obtain ⟨token, ht, rfl⟩ := List.mem_map.1 hi
    have h1 := Text.length_of_mem_splitTopLevel ht
    have h2 := Text.length_trim_le t
    unfold SelectItem.ofToken at hr
    split at hr
    · next r' hp =>
      cases hr
      have := Reference.length_of_parse? hp
      omega
    · cases hr

end Selection

end FluentQuery
