import FluentQuery.Projection
import FluentQuery.Query.Compile
import FluentQuery.Job

/-! Following references. `Relation.build` turns a reference into all the statements that it will
take, down to its innermost references, but for the keys. `Relation.resolve` asks for the related
rows of all parents together, in batches, and attaches them. A reference that fails gives its
parents an empty value and fails nothing else. -/
namespace FluentQuery

/-- A reference, its plan, and the row key that holds the local value in its parents. -/
structure Link where
  reference : Reference
  plan : Plan
  localKey : Text
deriving DecidableEq, Repr

/-- The fixed parts of the statements for one reference. -/
structure Lookup where
  columns : Text
  table : Text
  column : Text
  order : Text
  /-- The row key that holds the matched value in the related rows. -/
  matchKey : Text
  /-- The row keys that serve matching and references only. -/
  added : List Text
  batchSize : Nat
deriving DecidableEq, Repr

inductive Relation where
  | unresolved (reference : Reference)
  /-- The reference cannot be written as a statement. -/
  | broken (link : Link) (notices : List Event) (cause : Invalid)
  | ready (link : Link) (notices : List Event) (lookup : Lookup) (nested : List Relation)

/-! Statements -/

namespace Lookup

def statement (l : Lookup) (keys : List Json) : Statement :=
  ⟨"SELECT " ++ l.columns ++ " FROM " ++ l.table ++ " WHERE " ++ l.column ++ " IN " ++
    Predicate.bracketed (Text.join ", "
      ((List.range keys.length).map fun i => '$' :: Nat.toDigits 10 (i + 1))) ++ l.order, keys⟩

/-- The terms that order the rows of a reference. -/
def orders (terms : List OrderTerm) (r : Reference) : List OrderTerm :=
  terms.filter fun t =>
    t.options.foreignTable = some r.label ∨ t.options.foreignTable = some r.table

/-- The lookup of a link, with the projection of the body and of what its references need. -/
def make (config : Config) (terms : List OrderTerm) (link : Link) (body : Selection)
    (required : List Text) : Except Invalid (Lookup × Projection) := do
  let projection ← Projection.make body (link.plan.foreignColumn :: required)
  let table ← Projection.quoted link.plan.foreignTable
  let column ← Projection.quoted link.plan.foreignColumn
  let order ← Query.orderBySql (orders terms link.reference)
  .ok
    ({ columns := projection.sql
       table := table
       column := column
       order := order
       matchKey := projection.keyOf link.plan.foreignColumn
       added := projection.added
       batchSize := max config.batchSize 1 }, projection)

/-- What is removed before the related rows are matched; the matched value is not. -/
def early (l : Lookup) : List Text :=
  l.added.filter fun key => key ≠ l.matchKey

end Lookup

namespace Relation

/-- The columns that references read from the rows of their source. -/
def localColumns (g : Graph) (guessing : Bool) (source : Text) (references : List Reference) :
    List Text :=
  references.filterMap fun r => (Resolution.resolve g guessing source r).plan?.map Plan.localColumn

/-- What resolving a reference reports. -/
def notice (source : Text) (r : Reference) : Resolution → Option Event
  | .found _ => none
  | .guessed plan => some (.guessedKey source r.table r.label plan.localColumn)
  | .unresolved => some (.unresolved source r.table r.label)

def notices (g : Graph) (guessing : Bool) (source : Text) (references : List Reference) :
    List Event :=
  references.filterMap fun r => notice source r (Resolution.resolve g guessing source r)

/-- The relation of a reference in rows of `source`; `keyOf` gives the row keys of columns. -/
def build (g : Graph) (config : Config) (terms : List OrderTerm) (source : Text)
    (keyOf : Text → Text) (r : Reference) : Relation :=
  match (Resolution.resolve g config.guessKeys source r).plan? with
  | none => .unresolved r
  | some plan =>
    let link : Link := ⟨r, plan, keyOf plan.localColumn⟩
    let body := Selection.parse r.body
    let reports := notices g config.guessKeys plan.foreignTable body.references
    match Lookup.make config terms link body
        (localColumns g config.guessKeys plan.foreignTable body.references) with
    | .error cause => .broken link reports cause
    | .ok (lookup, projection) =>
      .ready link reports lookup
        (body.references.attach.map fun ⟨s, _h⟩ =>
          build g config terms plan.foreignTable projection.keyOf s)
termination_by r.body.length
decreasing_by exact Selection.length_of_mem_parse _h

def reference : Relation → Reference
  | .unresolved r => r
  | .broken link .. | .ready link .. => link.reference

/-- What a parent without related rows gets. -/
def emptyValue : Relation → Json
  | .unresolved _ => .null
  | .broken link .. | .ready link .. => link.plan.direction.emptyValue

/-! Keys -/

/-- Tells join values apart; null joins nothing. -/
def joinKey : Json → Option Text
  | .null => none
  | .str t => some ("s:" ++ t)
  | .int i => some ("n:" ++ (Json.int i).render)
  | .float x => some ("n:" ++ (Json.float x).render)
  | .bool b => some ("b:" ++ (Json.bool b).render)
  | other => some ("j:" ++ other.render)

def keyIn (row : Row) (column : Text) : Option Text :=
  (Row.get? column row).bind joinKey

/-- The values of a column that join something, each once, as they first appear. -/
def distinctKeys (column : Text) (rows : List Row) : List Json :=
  let keyed := (rows.filterMap (Row.get? column)).filterMap fun v =>
    (joinKey v).map fun key => (key, v)
  (keyed.eraseDupsBy fun a b => a.1 == b.1).map Prod.snd

/-- Runs of `size` items; the last may be shorter. -/
def batches {α : Type} (size : Nat) (items : List α) : List (List α) :=
  if items = [] then []
  else items.take (max size 1) :: batches size (items.drop (max size 1))
termination_by items.length
decreasing_by
  rw [List.length_drop]
  have := List.length_pos_iff.2 ‹_›
  omega

/-! Rows -/

def strip (keys : List Text) (row : Row) : Row :=
  keys.foldl (fun row key => Row.erase key row) row

/-- A related row under the key of its matched value, which goes if it was added. -/
def keyed (link : Link) (l : Lookup) (row : Row) : Except Error (Text × Row) :=
  match keyIn row l.matchKey with
  | some key => .ok (key, if l.added.contains l.matchKey then Row.erase l.matchKey row else row)
  | none => .error (.decode link.plan.foreignColumn "related row is missing its join column")

def matching (related : List (Text × Row)) (key : Option Text) : List Json :=
  match key with
  | some key => (related.filter fun r => r.1 = key).map fun r => .obj r.2
  | none => []

/-- The first match or null, or all matches. -/
def gather (direction : Direction) (values : List Json) : Json :=
  match direction with
  | .manyToOne => values.headD .null
  | .oneToMany => .arr values

/-- The value of each parent. -/
def valuesFor (link : Link) (parents : List Row) (related : List (Text × Row)) : List Json :=
  parents.map fun parent =>
    gather link.plan.direction (matching related (keyIn parent link.localKey))

/-! Attaching -/

/-- The values of one reference, and whether a parent needs one that is not empty. -/
structure Attachment where
  label : Text
  values : List Json
  required : Bool

/-- The attachment of a reference; without values it gives every parent the empty value. -/
def attachment (r : Relation) (parents : List Row) (values : Option (List Json)) : Attachment :=
  match values with
  | some values => ⟨r.reference.label, values, r.reference.inner⟩
  | none => ⟨r.reference.label, parents.map fun _ => r.emptyValue, false⟩

def Attachment.attach (a : Attachment) (rows : List Row) : List Row :=
  List.zipWith (fun row value => Row.put a.label value row) rows a.values

def isPresent : Option Json → Bool
  | none | some .null => false
  | some (.arr items) => !items.isEmpty
  | some _ => true

/-- Attaches all values in order, then drops the rows that lack a required one. -/
def attachAll (attachments : List Attachment) (rows : List Row) : List Row :=
  let required := (attachments.filter Attachment.required).map Attachment.label
  (attachments.foldl (fun rows a => a.attach rows) rows).filter fun row =>
    required.all fun label => isPresent (Row.get? label row)

/-! Asking -/

/-- The rows of all batches, one after the other. -/
def related (l : Lookup) : List (List Json) → Attempt (List Row)
  | [] => pure []
  | keys :: rest => do
    let rows ← Attempt.query .relation (l.statement keys)
    let more ← related l rest
    pure (rows ++ more)

def failure (link : Link) (e : Error) : Event :=
  .relationFailed link.reference.label link.plan.foreignTable e.message

/-- Strips the rows and attaches what the relations gave. -/
def finish (relations : List Relation) (stripped : List Text) (rows : List Row)
    (values : List (Option (List Json))) : List Row :=
  attachAll (List.zipWith (fun r v => r.attachment rows v) relations values)
    (rows.map (strip stripped))

mutual

/-- One value for each parent, or none if the reference fails. -/
def values : Relation → List Row → Job (Option (List Json))
  | .unresolved _, _ => pure none
  | .broken link notices cause, parents =>
    if distinctKeys link.localKey parents = [] then
      pure (some (parents.map fun _ => link.plan.direction.emptyValue))
    else do
      Job.reportAll notices
      Job.report (failure link (.invalid cause))
      pure none
  | .ready link notices lookup nested, parents =>
    if distinctKeys link.localKey parents = [] then
      pure (some (parents.map fun _ => link.plan.direction.emptyValue))
    else do
      Job.reportAll notices
      let found ← (related lookup
        (batches lookup.batchSize (distinctKeys link.localKey parents))).run
      match found with
      | .error e => do
        Job.report (failure link e)
        pure none
      | .ok rows => do
        let inner ← Job.all (jobs nested rows)
        match (finish nested lookup.early rows inner).mapM (keyed link lookup) with
        | .error e => do
          Job.report (failure link e)
          pure none
        | .ok pairs => pure (some (valuesFor link parents pairs))

/-- The work for each of several references. -/
def jobs : List Relation → List Row → List (Job (Option (List Json)))
  | [], _ => []
  | r :: rest, parents => values r parents :: jobs rest parents

end

/-- Attaches the related rows of all relations, and removes the keys that served only this. -/
def resolve (relations : List Relation) (stripped : List Text) (rows : List Row) :
    Job (List Row) := do
  let values ← Job.all (jobs relations rows)
  pure (finish relations stripped rows values)

end Relation

end FluentQuery
