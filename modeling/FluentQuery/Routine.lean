import FluentQuery.Outcome
import FluentQuery.Projection
import FluentQuery.Query
import FluentQuery.Job

/-! Calls of stored functions with named arguments, and of SQL that the caller wrote. -/
namespace FluentQuery

namespace Routine

/-- The members of an object; null stands for no arguments. -/
def arguments : Json → Except Invalid Row
  | .obj members => .ok members
  | .null => .ok []
  | other => .error (.arguments other)

/-- The named arguments in order, each with the placeholder of its value. -/
def named : Row → Params → Except Invalid (List Text × Params)
  | [], params => .ok ([], params)
  | (name, v) :: rest, params => do
    let sql ← Projection.quoted name
    let (texts, after) ← named rest (params.push v)
    .ok ((sql ++ " => " ++ params.placeholderFor v) :: texts, after)

def statement (name : Text) (members : Row) : Except Invalid Statement :=
  match Ident.quote name with
  | .error fault => .error (.routine name fault)
  | .ok sql => do
    let (texts, params) ← named members .empty
    .ok ⟨"SELECT * FROM " ++ sql ++ Predicate.bracketed (Text.join ", " texts), params.values⟩

/-- Rows of one column give up their column, and a single such row its array too. -/
def unwrap (rows : List Row) : Json :=
  if rows ≠ [] ∧ rows.all fun row => row.length = 1 then
    match rows.flatMap fun row => row.map Prod.snd with
    | [v] => v
    | values => .arr values
  else .arr (rows.map .obj)

def attempt (name : Text) (a : Argument) : Attempt Json := do
  let v ← match a with
    | .value v => pure v
    | .failing message => throw (.serialization message)
  let members ← Attempt.valid (arguments v)
  let s ← Attempt.valid (statement name members)
  let rows ← Attempt.query .routine s
  pure (unwrap rows)

/-- Calls a stored function. -/
def call (name : Text) (a : Argument) : Job (Outcome Json) := do
  match ← (attempt name a).run with
  | .ok v => pure (.ok v)
  | .error e => pure (.ofError e)

end Routine

namespace Raw

/-- Runs one statement as it is given. -/
def query (s : Statement) : Job (Outcome (List Row)) := do
  match ← (Attempt.query .raw s).run with
  | .ok rows => pure (.ok rows)
  | .error e => pure (.ofError e)

/-- Runs statements without parameters. -/
def batch (sql : Text) : Job (Outcome Unit) := do
  match ← (Attempt.ask (.batch sql)).run with
  | .ok _ => pure (.ok ())
  | .error e => pure (.ofError e)

end Raw

end FluentQuery
