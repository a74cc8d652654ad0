import FluentQuery.Proofs.Sql.Operand
import FluentQuery.Proofs.Sql.SelectList

/-! Reading the SQL of an INSERT: its columns, its tuples with the values that are bound to their
placeholders, what it does on conflict, and what it returns. What each part is written as is read
back, as long as the next part keeps apart from it. -/
namespace FluentQuery.Sql

open Condition (Binds chain chain_join chain_sql part? value? value?_placeholder)

/-- An entry of a tuple. -/
inductive Entry where
  | default
  | value (v : Json) (cast : Option Text)
deriving DecidableEq

/-- What is done with a row that is already there. -/
structure Conflict where
  target : List (List Text)
  /-- Columns with the proposed columns that they are set to; none leaves the row as it is. -/
  updates : Option (List (List Text × List Text))
deriving DecidableEq

structure Insertion where
  table : List Text
  columns : List (List Text)
  tuples : List (List Entry)
  conflict : Option Conflict
  returning : Option Text
deriving DecidableEq

/-! Reading -/

/-- A name: quoted parts with dots between them. -/
def identifier? : Text → Option (List Text × Text) :=
  chain ['.'] part?

/-- One or more items in round brackets. -/
def listed? {α : Type} (item : Text → Option (α × Text)) : Text → Option (List α × Text)
  | '(' :: rest =>
    match chain ", " item rest with
    | some (items, ')' :: rest) => some (items, rest)
    | _ => none
  | _ => none

def Entry.read? (bound : Nat → Option Json) (t : Text) : Option (Entry × Text) :=
  match ("DEFAULT" : Text).isPrefixOf? t with
  | some rest => some (.default, rest)
  | none => (value? bound t).map fun (v, rest) =>
    (.value v (Item.cast? rest).1, (Item.cast? rest).2)

/-- The columns and the tuples. -/
def payload? (bound : Nat → Option Json) (t : Text) :
    Option ((List (List Text) × List (List Entry)) × Text) :=
  match (" DEFAULT VALUES" : Text).isPrefixOf? t with
  | some rest => some (([], [[]]), rest)
  | none => do
    let rest ← [' '].isPrefixOf? t
    let (columns, rest) ← listed? identifier? rest
    let rest ← (" VALUES " : Text).isPrefixOf? rest
    let (tuples, rest) ← chain ", " (listed? (Entry.read? bound)) rest
    some ((columns, tuples), rest)

def assignment? (t : Text) : Option ((List Text × List Text) × Text) := do
  let (column, rest) ← identifier? t
  let rest ← (" = EXCLUDED." : Text).isPrefixOf? rest
  let (proposed, rest) ← identifier? rest
  some ((column, proposed), rest)

/-- What is set on conflict. -/
def updates? (t : Text) : Option (Option (List (List Text × List Text)) × Text) :=
  match (" DO NOTHING" : Text).isPrefixOf? t with
  | some rest => some (none, rest)
  | none => do
    let rest ← (" DO UPDATE SET " : Text).isPrefixOf? t
    let (updates, rest) ← chain ", " assignment? rest
    some (some updates, rest)

/-- What stands on conflicts, if anything, and what follows it. -/
def Conflict.read? (t : Text) : Option (Option Conflict × Text) :=
  match (" ON CONFLICT " : Text).isPrefixOf? t with
  | none => some (none, t)
  | some rest => do
    let (target, rest) ← listed? identifier? rest
    let (updates, rest) ← updates? rest
    some (some ⟨target, updates⟩, rest)

def returning? (t : Text) : Option (Option Text) :=
  match (" RETURNING " : Text).isPrefixOf? t with
  | some list => some (some list)
  | none => if t = [] then some none else none

/-- The statement that is the whole text. -/
def Insertion.read? (bound : Nat → Option Json) (t : Text) : Option Insertion := do
  let rest ← ("INSERT INTO " : Text).isPrefixOf? t
  let (table, rest) ← identifier? rest
  let ((columns, tuples), rest) ← payload? bound rest
  let (conflict, rest) ← Conflict.read? rest
  let returning ← returning? rest
  some ⟨table, columns, tuples, conflict, returning⟩

/-! How the parts are written -/

def names (columns : List (List Text)) : Text :=
  Text.join ", " (columns.map fun parts => Ident.sql ⟨parts⟩)

def assignmentText (u : List Text × List Text) : Text :=
  Ident.sql ⟨u.1⟩ ++ " = EXCLUDED." ++ Ident.sql ⟨u.2⟩

def updatesText : Option (List (List Text × List Text)) → Text
  | none => " DO NOTHING"
  | some updates => " DO UPDATE SET " ++ Text.join ", " (updates.map assignmentText)

theorem updatesText_none : updatesText none = " DO NOTHING" := rfl

theorem updatesText_some (updates : List (List Text × List Text)) : updatesText (some updates) =
    " DO UPDATE SET " ++ Text.join ", " (updates.map assignmentText) := rfl

def Conflict.text (c : Conflict) : Text :=
  " ON CONFLICT " ++ Predicate.bracketed (names c.target) ++ updatesText c.updates

def conflictText : Option Conflict → Text
  | none => []
  | some c => c.text

def returningText : Option Text → Text
  | none => []
  | some list => " RETURNING " ++ list

/-- A conflict with its target and its assignments named. -/
structure Conflict.Written (c : Conflict) : Prop where
  targeted : c.target ≠ []
  target : ∀ parts ∈ c.target, parts ≠ []
  assigned : c.updates ≠ some []
  updates : ∀ updates ∈ c.updates, ∀ u ∈ updates, u.1 ≠ [] ∧ u.2 ≠ []

/-! Reading back -/

variable {α : Type} {bound : Nat → Option Json} {rest : Text}

/-- What may follow an item in brackets. -/
def Follows (rest : Text) : Prop :=
  ∀ c ∈ rest.head?, c = ',' ∨ c = ')'

/-- What may follow a part of the statement. -/
def Ends (rest : Text) : Prop :=
  ∀ c ∈ rest.head?, c = ' '

theorem listed?_bracketed {item : Text → Option (α × Text)} {texts : List Text} {items : List α}
    (any : texts ≠ [])
    (each : List.Forall₂ (fun t a => ∀ rest, Follows rest → item (t ++ rest) = some (a, rest))
      texts items) :
    listed? item (Predicate.bracketed (Text.join ", " texts) ++ rest) = some (items, rest) := by
  have read : chain ", " item (Text.join ", " texts ++ ')' :: rest) =
      some (items, ')' :: rest) := by
    refine chain_join Follows (by decide) each ?_ ?_
      (Text.isPrefixOf?_eq_none (c := ',') rfl (by simp)) any
    · rintro more c ⟨⟩
      exact .inl rfl
    · rintro c ⟨⟩
      exact .inr rfl
  have spelled : Predicate.bracketed (Text.join ", " texts) ++ rest =
      '(' :: (Text.join ", " texts ++ ')' :: rest) := by
    simp [Predicate.bracketed]
  rw [spelled, listed?]
  simp only [read]

theorem identifier?_names {columns : List (List Text)} (filled : ∀ parts ∈ columns, parts ≠ []) :
    List.Forall₂ (fun t a => ∀ rest, Follows rest → identifier? (t ++ rest) = some (a, rest))
      (columns.map fun parts => Ident.sql ⟨parts⟩) columns := by
  rw [List.forall₂_map_left_iff, List.forall₂_same]
  intro parts member rest follows
  exact chain_sql (filled parts member) (fun head => by simpa using follows _ head)
    (fun head => by simpa using follows _ head)

theorem listed?_names {columns : List (List Text)} (any : columns ≠ [])
    (filled : ∀ parts ∈ columns, parts ≠ []) :
    listed? identifier? (Predicate.bracketed (names columns) ++ rest) = some (columns, rest) :=
  listed?_bracketed (by simpa using any) (identifier?_names filled)

theorem Entry.read?_default : Entry.read? bound ("DEFAULT" ++ rest) = some (.default, rest) := by
  rw [Entry.read?, Text.isPrefixOf?_append]

/-- A placeholder is read as its value, with the cast behind it. -/
theorem Entry.read?_value {n : Nat} {v : Json} {cast : Option Text} (known : bound n = some v)
    (typed : ∀ type ∈ cast, ∀ c ∈ type, Item.isTypeChar c = true) (follows : Follows rest) :
    Entry.read? bound ('$' :: Nat.toDigits 10 n ++ (Item.castText cast ++ rest)) =
      some (.value v cast, rest) := by
  have stop : ∀ c ∈ rest.head?, Item.isTypeChar c = false := by
    intro c head
    rcases follows c head with rfl | rfl <;> rfl
  have bare : rest.head? ≠ some ':' := fun head => by simpa using follows _ head
  have behind : ∀ c ∈ (Item.castText cast ++ rest).head?, c.isDigit = false := by
    cases cast with
    | none =>
      intro c head
      rcases follows c head with rfl | rfl <;> rfl
    | some type =>
      rintro c ⟨⟩
      rfl
  have other : ("DEFAULT" : Text).isPrefixOf?
      ('$' :: Nat.toDigits 10 n ++ (Item.castText cast ++ rest)) = none :=
    Text.isPrefixOf?_eq_none (c := 'D') rfl (by simp)
  rw [Entry.read?, other]
  simp only [value?_placeholder known behind, Option.map_some, Item.cast?_castText typed stop bare]

theorem assignment?_text {u : List Text × List Text} (first : u.1 ≠ []) (second : u.2 ≠ [])
    (apart : rest.head? ≠ some '"') (last : rest.head? ≠ some '.') :
    assignment? (assignmentText u ++ rest) = some (u, rest) := by
  have left (t : Text) : identifier? (Ident.sql ⟨u.1⟩ ++ (" = EXCLUDED." ++ t)) =
      some (u.1, " = EXCLUDED." ++ t) :=
    chain_sql first (by simp) (by simp)
  have right : identifier? (Ident.sql ⟨u.2⟩ ++ rest) = some (u.2, rest) :=
    chain_sql second apart last
  rw [assignmentText, List.append_assoc, List.append_assoc, assignment?]
  simp only [Option.bind_eq_bind, left, Option.bind_some, Text.isPrefixOf?_append, right]

theorem updates?_text {updates : Option (List (List Text × List Text))} (any : updates ≠ some [])
    (filled : ∀ list ∈ updates, ∀ u ∈ list, u.1 ≠ [] ∧ u.2 ≠ []) (ends : Ends rest) :
    updates? (updatesText updates ++ rest) = some (updates, rest) := by
  cases updates with
  | none =>
    unfold updates?
    rw [updatesText_none, Text.isPrefixOf?_append]
  | some updates =>
    have read : chain ", " assignment? (Text.join ", " (updates.map assignmentText) ++ rest) =
        some (updates, rest) := by
      refine chain_join (fun rest => rest.head? ≠ some '"' ∧ rest.head? ≠ some '.') (by decide) ?_
        (by simp) ⟨fun head => by simpa using ends _ head, fun head => by simpa using ends _ head⟩
        (Text.isPrefixOf?_eq_none (c := ',') rfl fun head => by simpa using ends _ head)
        (by simpa using any)
      rw [List.forall₂_map_left_iff, List.forall₂_same]
      intro u member rest apart
      obtain ⟨first, second⟩ := filled updates rfl u member
      exact assignment?_text first second apart.1 apart.2
    have other (t : Text) :
        (" DO NOTHING" : Text).isPrefixOf? (" DO UPDATE SET " ++ t) = none := rfl
    unfold updates?
    rw [updatesText_some, List.append_assoc, other]
    simp only [Option.bind_eq_bind, Text.isPrefixOf?_append, Option.bind_some, read]

/-- Conflicts are read back before a blank and at the end. -/
theorem Conflict.read?_text {c : Conflict} (written : c.Written) (ends : Ends rest) :
    Conflict.read? (c.text ++ rest) = some (some c, rest) := by
  have targeted : listed? identifier?
      (Predicate.bracketed (names c.target) ++ (updatesText c.updates ++ rest)) =
        some (c.target, updatesText c.updates ++ rest) :=
    listed?_names written.targeted written.target
  unfold Conflict.text Conflict.read?
  rw [List.append_assoc, List.append_assoc, Text.isPrefixOf?_append]
  simp only [Option.bind_eq_bind, targeted, Option.bind_some,
    updates?_text written.assigned written.updates ends]

theorem ends_returningText (returning : Option Text) : Ends (returningText returning) := by
  cases returning with
  | none => exact fun _ head => nomatch head
  | some list =>
    rintro c ⟨⟩
    rfl

theorem ends_conflictText (conflict : Option Conflict) (ends : Ends rest) :
    Ends (conflictText conflict ++ rest) := by
  cases conflict with
  | none => exact ends
  | some c =>
    rintro c ⟨⟩
    rfl

theorem returning?_text (returning : Option Text) :
    returning? (returningText returning) = some returning := by
  cases returning with
  | none => rfl
  | some list =>
    unfold returningText returning?
    rw [Text.isPrefixOf?_append]

/-- What stands on conflicts ends where RETURNING begins, and there need not be any of it. -/
theorem Conflict.read?_conflictText {conflict : Option Conflict}
    (written : ∀ c ∈ conflict, c.Written) (returning : Option Text) :
    Conflict.read? (conflictText conflict ++ returningText returning) =
      some (conflict, returningText returning) := by
  cases conflict with
  | some c => exact read?_text (written c rfl) (ends_returningText returning)
  | none => cases returning <;> rfl

theorem payload?_default :
    payload? bound (" DEFAULT VALUES" ++ rest) = some (([], [[]]), rest) := by
  unfold payload?
  rw [Text.isPrefixOf?_append]

theorem payload?_values {columns : List (List Text)} {texts : List Text}
    {tuples : List (List Entry)} (any : columns ≠ []) (filled : ∀ parts ∈ columns, parts ≠ [])
    (some_row : texts ≠ [])
    (each : List.Forall₂
      (fun t a => ∀ rest, listed? (Entry.read? bound) (t ++ rest) = some (a, rest)) texts tuples)
    (ends : Ends rest) :
    payload? bound (' ' :: (Predicate.bracketed (names columns) ++
        (" VALUES " ++ (Text.join ", " texts ++ rest)))) = some ((columns, tuples), rest) := by
  have rows : chain ", " (listed? (Entry.read? bound)) (Text.join ", " texts ++ rest) =
      some (tuples, rest) :=
    chain_join (fun _ => True) (by decide) (each.imp fun _ _ read rest _ => read rest)
      (fun _ => trivial) trivial
      (Text.isPrefixOf?_eq_none (c := ',') rfl fun head => by simpa using ends _ head) some_row
  have blank (t : Text) : [' '].isPrefixOf? (' ' :: t) = some t := Text.isPrefixOf?_append [' '] t
  have other (t : Text) :
      (" DEFAULT VALUES" : Text).isPrefixOf? (' ' :: (Predicate.bracketed (names columns) ++ t)) =
        none := rfl
  unfold payload?
  rw [other]
  simp only [Option.bind_eq_bind, blank, listed?_names any filled, Option.bind_some,
    Text.isPrefixOf?_append, rows]

theorem Insertion.read?_parts {table : List Text} {payload : Text} {columns : List (List Text)}
    {tuples : List (List Entry)} {conflict : Option Conflict} (returning : Option Text)
    (named : table ≠ []) (spaced : payload.head? = some ' ')
    (read : ∀ rest, Ends rest → payload? bound (payload ++ rest) = some ((columns, tuples), rest))
    (written : ∀ c ∈ conflict, c.Written) :
    Insertion.read? bound ("INSERT INTO " ++ (Ident.sql ⟨table⟩ ++ (payload ++
        (conflictText conflict ++ returningText returning)))) =
      some ⟨table, columns, tuples, conflict, returning⟩ := by
  have target (t : Text) : identifier? (Ident.sql ⟨table⟩ ++ (payload ++ t)) =
      some (table, payload ++ t) :=
    chain_sql named (by simp [List.head?_append, spaced]) (by simp [List.head?_append, spaced])
  have values := read _ (ends_conflictText conflict (ends_returningText returning))
  unfold Insertion.read?
  simp only [Option.bind_eq_bind, Text.isPrefixOf?_append, Option.bind_some, target, values,
    Conflict.read?_conflictText written returning, returning?_text]

end FluentQuery.Sql
