import FluentQuery.Script
import FluentQuery.Wire.Cell
import FluentQuery.Wire.Param

/-! Executors that talk to a server over connections: a statement is prepared, its values are
encoded for the types that the server names, and the rows come back as bytes. The server itself
follows a script. -/
namespace FluentQuery.Server

/-- What holds the connection. -/
inductive Holder where
  /-- One connection, whether alone, inside a transaction or taken from a pool. -/
  | single
  /-- A pool, which opens a new connection when it has none. -/
  | pool
deriving DecidableEq, Repr

structure Effect where
  /-- The connection drops. -/
  drops : Bool
  /-- The statement is refused. -/
  error : Option ServerReport
  types : List WireType
  columns : List WireColumn
  rows : List (List (Option (List UInt8)))
  /-- The server fails after the rows. -/
  lateError : Option ServerReport
  tag : Option Text

def Effect.none : Effect := ⟨false, .none, [], [], [], .none, .none⟩

inductive Record where
  /-- The values as texts, if they were sent. -/
  | statement (sql : Text) (params : Option (List (Option Text)))
  | batch (sql : Text)
deriving DecidableEq, Repr

structure State where
  holder : Holder
  rules : List (Rule Effect)
  /-- How the server answers whoever connects, unless it lets them in. -/
  refusal : Option ServerReport
  /-- The only connection has dropped. -/
  dropped : Bool
  /-- How many connections of the pool are open and free. -/
  idle : Nat
  /-- The pool has been closed. -/
  closed : Bool
  records : List Record

def State.create (holder : Holder) (rules : List (Rule Effect)) (refusal : Option ServerReport) :
    State :=
  ⟨holder, rules, refusal, false, 0, false, []⟩

def State.record (s : State) (r : Record) : State :=
  { s with records := s.records ++ [r] }

/-- Ends the use of a connection, which goes back to the pool unless it has dropped. -/
def State.release (s : State) (drops : Bool) : State :=
  if s.holder = .pool ∧ !drops then { s with idle := s.idle + 1 } else s

def connectionClosed : Error := .connection "connection closed"

def failed {α : Type} (e : Error) : Reply State α := .answered [] (.error e)

/-- The way to the server and back. Only the order of arrivals hangs on how long it takes. -/
def trip : Duration := ⟨1⟩

/-- Does some work with a connection at hand, unless the text cannot be sent. -/
def State.dispatch {α : Type} (s : State) (sql : Text) (work : State → Reply State α × State) :
    Reply State α × State :=
  if Char.ofNat 0 ∈ sql then
    (failed (.query "error encoding message to server"), s.release false)
  else if s.dropped then (.later trip fun s => (failed connectionClosed, s), s)
  else work s

/-- Does some work with a connection; a pool without a free one first opens another. -/
def State.reach {α : Type} (s : State) (sql : Text) (work : State → Reply State α × State) :
    Reply State α × State :=
  if s.closed then (failed (.pool "Pool has been closed"), s)
  else if s.holder = .pool ∧ s.idle = 0 then
    (.later trip fun s =>
      match s.refusal with
      | some report => (failed (.database report), s)
      | none => s.dispatch sql work, s)
  else
    match s.refusal with
    | some report => (failed (.database report), s)
    | none => { s with idle := s.idle - 1 }.dispatch sql work

/-- The numbers of the placeholders of a text. -/
def placeholders : Text → List Nat
  | [] => []
  | '$' :: rest => Nat.ofDigitChars 10 (rest.takeWhile Char.isDigit) 0 :: placeholders rest
  | _ :: rest => placeholders rest

/-- The types of a statement's parameters; those that no rule names are texts. -/
def paramTypes (sql : Text) (named : List WireType) : List WireType :=
  named ++ List.replicate (((placeholders sql).max?.getD 0) - named.length) (.scalar .text)

/-- How the server takes a text. -/
def State.admit (s : State) (sql : Text) : Effect × State :=
  let (effect, rules) := Rule.take? sql s.rules
  let effect := effect.getD .none
  (effect, { s with rules := rules, dropped := s.dropped || (effect.drops && s.holder = .single) })

/-- Why the server does not take a text, if it does not. -/
def Effect.fault? (e : Effect) : Option Error :=
  if e.drops then some connectionClosed else e.error.map .database

/-- The values as texts, if there are as many as types. -/
def encodeAll (types : List WireType) (values : List Json) : Except Error (List (Option Text)) :=
  if types.length = values.length then .ok (List.zipWith Param.encode types values)
  else
    .error (.query ("expected " ++ Nat.toDigits 10 types.length ++ " parameters but got " ++
      Nat.toDigits 10 values.length))

/-- What the server answers to values. -/
def Effect.answer {α : Type} (e : Effect) (value : Effect → List Event × Except Error α)
    (s : State) : Reply State α × State :=
  let (events, answer) := match e.lateError with
    | some report => ([], .error (.database report))
    | .none => value e
  (.answered events answer, s.release false)

/-- Sends the values for a statement that was taken and recorded at a place. -/
def Effect.bind {α : Type} (e : Effect) (place : Nat) (statement : Statement)
    (value : Effect → List Event × Except Error α) (s : State) : Reply State α × State :=
  match e.fault? with
  | some fault => (failed fault, s.release e.drops)
  | .none =>
    if s.dropped then (failed connectionClosed, s)
    else
      match encodeAll (paramTypes statement.sql e.types) statement.params with
      | .error fault => (failed fault, s.release false)
      | .ok params =>
        (.later trip (e.answer value),
          { s with records := s.records.set place (.statement statement.sql (some params)) })

/-- Prepares a statement and then sends its values; what is made of the answer is up to `value`. -/
def bound {α : Type} (statement : Statement) (value : Effect → List Event × Except Error α)
    (s : State) : Reply State α × State :=
  s.reach statement.sql fun s =>
    let (effect, t) := s.admit statement.sql
    (.later trip (effect.bind s.records.length statement value),
      t.record (.statement statement.sql none))

/-- All rows, or the first error in them. -/
def decodeRows (columns : List WireColumn) :
    List (List (Option (List UInt8))) → List Event × Except Error (List Row)
  | [] => ([], .ok [])
  | cells :: rest =>
    match WireColumn.decodeRow (columns.zip cells) with
    | (events, .error e) => (events, .error e)
    | (events, .ok row) =>
      let (more, rows) := decodeRows columns rest
      (events ++ more, rows.map (row :: ·))

/-- The number that ends a command tag; what cannot be read counts as zero. -/
def affected (e : Effect) : Nat :=
  let tag := e.tag.getD ("SELECT " ++ Nat.toDigits 10 e.rows.length)
  (((Text.splitOn ' ' tag).getLast?).bind (Text.readNat? (2 ^ 64 - 1))).getD 0

def batch (sql : Text) (s : State) : Reply State Unit × State :=
  s.reach sql fun s =>
    let (effect, s) := s.admit sql
    let answer := match effect.fault? with
      | some fault => .error fault
      | none => .ok ()
    (.later trip fun s => (.answered [] answer, s.release effect.drops), s.record (.batch sql))

/-- Closing shuts a pool; a single connection stays open. -/
def close (s : State) : State :=
  { s with closed := s.holder = .pool }

def executor : Executor State where
  query statement := bound statement fun e => decodeRows e.columns e.rows
  execute statement := bound statement fun e => ([], .ok (affected e))
  batch := batch
  close := close

end FluentQuery.Server
