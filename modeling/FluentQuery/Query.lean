import FluentQuery.Event
import FluentQuery.Filter.Set

/-! A query under construction: one statement against one table, shaped by calls that may come in
any order. The first invalid argument is kept and reported in the end; later calls are recorded all
the same. -/
namespace FluentQuery

/-- A value from the caller, or the reason why it could not be turned into one. -/
inductive Argument where
  | value (v : Json)
  | failing (message : Text)
deriving DecidableEq

/-- The list of arguments as one, failing like the first that fails. -/
def Argument.ofList : List Argument → Argument
  | [] => .value (.arr [])
  | .failing message :: _ => .failing message
  | .value v :: rest =>
    match ofList rest with
    | .value (.arr vs) => .value (.arr (v :: vs))
    | other => other

inductive CountMode where
  | exact
  /-- The planner's estimate. -/
  | planned
  /-- The estimate, or an exact count where it is small. -/
  | estimated
deriving DecidableEq, Repr

structure UpsertOptions where
  /-- The columns of the conflict target, separated by commas. -/
  onConflict : Option Text
  ignoreDuplicates : Bool
deriving DecidableEq, Repr

structure OrderOptions where
  ascending : Bool
  /-- None leaves the place of nulls to the server. -/
  nullsFirst : Option Bool
  /-- Orders the rows of a related table instead. -/
  foreignTable : Option Text
deriving DecidableEq, Repr

structure OrderTerm where
  column : Text
  options : OrderOptions
deriving DecidableEq, Repr

inductive Action where
  | select
  | insert (rows : List Row)
  | upsert (rows : List Row) (options : UpsertOptions)
  | update (patch : Row)
  | delete
deriving DecidableEq

def Action.isMutation : Action → Bool
  | .select => false
  | _ => true

structure Query where
  table : Text
  action : Action
  /-- The select expression, or the returned columns of a mutation. -/
  columns : Option Text
  count : Option CountMode
  /-- Counts only and returns no rows. -/
  head : Bool
  filters : FilterSet
  orders : List OrderTerm
  limit : Option Nat
  range : Option (Nat × Nat)
  deferred : Option Error
  /-- What the calls had to report, in order. -/
  notices : List Event
deriving DecidableEq

namespace Query

def ofTable (table : Text) : Query where
  table := table
  action := .select
  columns := none
  count := none
  head := false
  filters := .empty
  orders := []
  limit := none
  range := none
  deferred := none
  notices := []

/-- Keeps the first error. -/
def defer (q : Query) (e : Error) : Query :=
  { q with deferred := q.deferred.or (some e) }

def refuse (q : Query) (cause : Invalid) : Query :=
  q.defer (.invalid cause)

/-- The value of an argument; a failing one is deferred and counts as null. -/
def take (q : Query) : Argument → Query × Json
  | .value v => (q, v)
  | .failing message => (q.defer (.serialization message), .null)

/-- The objects of an array, or the first item that is none. -/
def rowsOf : List Json → Except Json (List Row)
  | [] => .ok []
  | .obj row :: rest => (rowsOf rest).map (row :: ·)
  | other :: _ => .error other

/-- The rows of a payload: one object, or an array of objects. -/
def payload (q : Query) (a : Argument) : Query × List Row :=
  match q.take a with
  | (q, .obj row) => (q, [row])
  | (q, .arr items) =>
    match rowsOf items with
    | .ok rows => (q, rows)
    | .error other => (q.refuse (.payloadRow other), [])
  | (q, other) => (q.refuse (.payload other), [])

def select (q : Query) (columns : Text) : Query :=
  { q with columns := some columns }

def selectWith (q : Query) (columns : Text) (count : Option CountMode) (head : Bool) : Query :=
  { q with columns := some columns, count := count, head := head }

def insert (q : Query) (a : Argument) : Query :=
  let (q, rows) := q.payload a
  { q with action := .insert rows }

def upsert (q : Query) (a : Argument) (options : UpsertOptions) : Query :=
  let (q, rows) := q.payload a
  { q with action := .upsert rows options }

def update (q : Query) (a : Argument) : Query :=
  match q.take a with
  | (q, .obj patch) => { q with action := .update patch }
  | (q, other) => { q.refuse (.patch other) with action := .update [] }

def delete (q : Query) : Query :=
  { q with action := .delete }

def withCount (q : Query) (mode : CountMode) : Query :=
  { q with count := some mode }

/-- A filter by its operator. -/
def restrict (q : Query) (column : Text) (op : Operator) (a : Argument) : Query :=
  let (q, v) := q.take a
  { q with filters := q.filters.push ⟨column, op, v⟩ }

/-- One equality for every member of an object. -/
def matching (q : Query) (a : Argument) : Query :=
  match q.take a with
  | (q, .obj members) =>
    { q with filters := q.filters.pushAll (members.map fun (column, v) => ⟨column, .eq, v⟩) }
  | (q, other) => q.refuse (.matching other)

/-- A negated filter by the name of its operator. -/
def not (q : Query) (column name : Text) (a : Argument) : Query :=
  let (q, v) := q.take a
  let notice := if (Operator.parse? name).isSome then [] else [.unknownOperator name column]
  { q with
    filters := q.filters.pushNegated (.ofOperator column name v)
    notices := q.notices ++ notice }

def or (q : Query) (raw : Text) : Query :=
  { q with filters := q.filters.pushGroup raw }

/-- A filter by the name of its operator; `not.` before it negates. -/
def filter (q : Query) (column name : Text) (a : Argument) : Query :=
  match ("not." : Text).isPrefixOf? name with
  | some name => q.not column name a
  | none =>
    match Operator.parse? name with
    | none => q.refuse (.operator name)
    | some op =>
      match q.take a with
      | (q, .str raw) =>
        match Operand.parse op raw with
        | .ok v => { q with filters := q.filters.push ⟨column, op, v⟩ }
        | .error cause => q.refuse cause
      | (q, v) => { q with filters := q.filters.push ⟨column, op, v⟩ }

def order (q : Query) (column : Text) (options : OrderOptions) : Query :=
  { q with orders := q.orders ++ [⟨column, options⟩] }

def withLimit (q : Query) (count : Nat) : Query :=
  let q := if maxRows < count then q.refuse (.limit count) else q
  { q with limit := some count }

/-- The rows from `first` to `last`, counted from zero and both included. -/
def withRange (q : Query) (first last : Nat) : Query :=
  let q :=
    if last < first then q.refuse (.rangeReversed first last)
    else if maxRows < first ∨ maxRows ≤ last - first then q.refuse (.rangeTooLarge first last)
    else q
  { q with range := some (first, last) }

/-- The largest number that a call takes. -/
def maxNumber : Nat := 2 ^ 64 - 1

/-- Limit and offset; a range wins over a limit. The number of its rows stops at the largest
number. -/
def paging (q : Query) : Option Nat × Option Nat :=
  match q.range with
  | some (first, last) => (some (min (last - first + 1) maxNumber), some first)
  | none => (q.limit, none)

def mainOrders (q : Query) : List OrderTerm :=
  q.orders.filter fun t => t.options.foreignTable.isNone

def foreignOrders (q : Query) : List OrderTerm :=
  q.orders.filter fun t => t.options.foreignTable.isSome

end Query

end FluentQuery
