import FluentQuery.Json.Reader
import FluentQuery.Outcome
import FluentQuery.Relation

/-! Running a query: first its count, then the foreign keys if it holds references, then its main
statement, and last the related rows. The first error among the count, the keys and the main
statement ends it. -/
namespace FluentQuery

/-! Counts -/

namespace CountMode

/-- The number in an answer to a counting statement. -/
def exactIn (rows : List Row) : Except Error Int :=
  match rows.head?.bind (Row.get? "count") with
  | some (.int i) =>
    if -2 ^ 63 ≤ i ∧ i < 2 ^ 63 then .ok i
    else .error (.decode "count" "count query returned no integer")
  | _ => .error (.decode "count" "count query returned no integer")

def member? (key : Text) : Json → Option Json
  | .obj members => Row.get? key members
  | _ => none

/-- A number of rows; a fraction is cut off, and what is too large counts as the largest. -/
def rowNumber? : Json → Option Int
  | .int i => some (if i < 2 ^ 63 then i else 2 ^ 63 - 1)
  | .float x => some (min (max x.truncate (-2 ^ 63)) (2 ^ 63 - 1))
  | _ => none

/-- The estimate in a plan, which may also be given as its text. -/
def planRows? (plan : Json) : Option Int := do
  let plan ← match plan with
    | .str t => Json.read? t
    | other => some other
  match plan with
  | .arr (first :: _) =>
    let root ← member? "Plan" first
    let rows ← member? "Plan Rows" root
    rowNumber? rows
  | _ => none

def plannedIn (rows : List Row) : Except Error Int :=
  match rows.head?.bind (Row.get? "QUERY PLAN") with
  | none => .error (.decode "QUERY PLAN" "EXPLAIN returned no plan")
  | some plan =>
    match planRows? plan with
    | some n => .ok n
    | none => .error (.decode "QUERY PLAN" "plan has no 'Plan Rows'")

end CountMode

/-- What a finished query yields: rows, unless only a number was asked for, and the count. -/
structure Yield where
  rows : Option (List Row)
  count : Option Int

namespace Query

def countExactly (config : Config) (q : Query) : Attempt Int := do
  let s ← Attempt.valid (q.countStatement config.searchConfig)
  let rows ← Attempt.query .count s
  MonadExcept.ofExcept (CountMode.exactIn rows)

def estimate (config : Config) (q : Query) : Attempt Int := do
  let s ← Attempt.valid (q.planStatement config.searchConfig)
  let rows ← Attempt.query .count s
  MonadExcept.ofExcept (CountMode.plannedIn rows)

def countRows (config : Config) (q : Query) : CountMode → Attempt Int
  | .exact => q.countExactly config
  | .planned => q.estimate config
  | .estimated => do
    let n ← q.estimate config
    if n < config.estimateThreshold then q.countExactly config else pure n

/-! Rows -/

def kind (q : Query) : StatementKind :=
  match q.action with
  | .select => .select
  | .insert _ => .insert
  | .upsert .. => .upsert
  | .update _ => .update
  | .delete => .delete

/-- Asks for the main statement with its columns and what its references need, and follows the
references. -/
def fetchAlong (config : Config) (q : Query) (s : Selection) (g : Graph) (source : Text) :
    Attempt (List Row) := do
  Attempt.reportAll (Relation.notices g config.guessKeys source s.references)
  let columns := Relation.localColumns g config.guessKeys source s.references
  let projection ← Attempt.valid (Projection.make s columns)
  let main ← Attempt.valid (q.mainStatement config.searchConfig (some projection.sql))
  let rows ← Attempt.query q.kind main
  let relations := s.references.map
    (Relation.build g config q.foreignOrders source projection.keyOf)
  ExceptT.lift (Relation.resolve relations projection.added rows)

def fetch (config : Config) (q : Query) (columns : Text) : Attempt (List Row) :=
  let s := Selection.parse columns
  if s.references.isEmpty then q.fetchAlong config s [] []
  else do
    let g ← Attempt.ask .graph
    let source ← Attempt.valid q.sourceTable
    q.fetchAlong config s g source

/-- Whether an insert or upsert has no rows, so that nothing is sent. -/
def writesNothing (q : Query) : Bool :=
  match q.action with
  | .insert rows | .upsert rows _ => rows.isEmpty
  | _ => false

/-- A number of rows in 64 bits, read as signed. -/
def signedCount (n : Nat) : Int :=
  Int.bmod n (2 ^ 64)

def runSelect (config : Config) (q : Query) : Attempt Yield := do
  let count ← q.count.mapM (q.countRows config)
  if q.head then pure ⟨none, count⟩
  else
    let rows ← q.fetch config (q.columns.getD ['*'])
    pure ⟨some rows, count⟩

def runMutation (config : Config) (q : Query) : Attempt Yield :=
  if q.writesNothing then pure ⟨q.columns.map fun _ => [], q.count.map fun _ => 0⟩
  else
    match q.columns with
    | some columns => do
      let rows ← q.fetch config columns
      pure ⟨some rows, q.count.map fun _ => signedCount rows.length⟩
    | none => do
      let s ← Attempt.valid (q.mainStatement config.searchConfig none)
      let affected ← Attempt.execute q.kind s
      pure ⟨none, q.count.map fun _ => signedCount affected⟩

def attempt (config : Config) (q : Query) : Attempt Yield :=
  match q.deferred with
  | some e => throw e
  | none => if q.action.isMutation then q.runMutation config else q.runSelect config

/-! Endings -/

/-- The outcome with every row. -/
def allRows : Except Error Yield → Outcome (List Row)
  | .ok y => ⟨y.rows, none, y.count⟩
  | .error e => .ofError e

/-- The outcome with one row; no row is an error unless it is allowed. -/
def oneRow (orNone : Bool) : Except Error Yield → Outcome Row
  | .error e => .ofError e
  | .ok y =>
    let o : Outcome Row := match y.rows with
      | none => .empty
      | some [row] => .ok row
      | some rows => if orNone && rows.isEmpty then .empty else .ofError (.cardinality rows.length)
    o.withCount y.count

/-- The attempt after what the calls had to report. -/
def perform (config : Config) (q : Query) : Job (Except Error Yield) := do
  Job.reportAll q.notices
  (q.attempt config).run

def execute (config : Config) (q : Query) : Job (Outcome (List Row)) :=
  allRows <$> q.perform config

def single (config : Config) (q : Query) : Job (Outcome Row) :=
  oneRow false <$> q.perform config

def maybeSingle (config : Config) (q : Query) : Job (Outcome Row) :=
  oneRow true <$> q.perform config

/-- The statement alone; nothing is asked. -/
def compile (config : Config) (q : Query) : Job (Except Error Statement) := do
  Job.reportAll q.notices
  pure (q.toSql config.searchConfig)

end Query

end FluentQuery
