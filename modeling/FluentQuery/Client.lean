import FluentQuery.Executor
import FluentQuery.ForeignKey.Catalog
import FluentQuery.GraphCache
import FluentQuery.Job

/-! A client carries out jobs over an executor. It reports and limits every statement, keeps the
foreign keys, and counts time only by the delays of its replies. Several jobs share one client:
each runs until it has to wait, and goes on, in the order of the jobs, when what it waits for is
there. -/
namespace FluentQuery

structure Client (σ : Type) where
  config : Config
  executor : Executor σ
  /-- What lies behind the executor. -/
  behind : σ
  graphs : GraphCache
  /-- The time in nanoseconds. -/
  clock : Nat
  /-- How many waits have begun. -/
  waits : Nat
  /-- What was reported, in order. -/
  log : List Event

/-- A reply that is under way. -/
structure Pending (σ α : Type) where
  due : Nat
  change : σ → σ
  next : σ → Reply σ α

/-- What has to happen before a request is answered. -/
inductive Wait (σ : Type) : Request → Type where
  | reply {r : Request} (pending : Pending σ r.Answer) : Wait σ r
  /-- A load that the job itself leads. -/
  | load (ticket : Ticket) (pending : Pending σ (List Row)) : Wait σ .graph
  /-- A load that another job leads. -/
  | share (channel : Nat) : Wait σ .graph

/-- Where a job stands. -/
inductive Lane (σ : Type) : Type → Type 1 where
  | ended {α : Type} (value : α) : Lane σ α
  | dropped {α : Type} : Lane σ α
  /-- A wait bears the number of waits that began before it. -/
  | held {α : Type} (number : Nat) (request : Request) (wait : Wait σ request)
      (next : Except Error request.Answer → Job α) : Lane σ α
  | both {α β γ : Type} (order : Order) (first : Lane σ β) (second : Lane σ γ)
      (next : β × γ → Job α) : Lane σ α

/-- The answer to a request, or what has to happen first. -/
inductive Progress (σ : Type) (r : Request) where
  | now (answer : Except Error r.Answer)
  | later (wait : Wait σ r)

/-- What has arrived of a reply, or what is still under way. -/
inductive Arrival (σ α : Type) where
  | full (events : List Event) (answer : Except Error α)
  | partly (pending : Pending σ α)

namespace Client

variable {σ α β γ : Type}

def create (config : Config) (executor : Executor σ) (behind : σ) : Client σ :=
  ⟨config, executor, behind, .empty, 0, 0, []⟩

def report (c : Client σ) (e : Event) : Client σ :=
  { c with log := c.log ++ [e] }

def reportAll (c : Client σ) (events : List Event) : Client σ :=
  { c with log := c.log ++ events }

/-! Statements -/

/-- Reports a statement that is about to be sent. -/
def announce (c : Client σ) (kind : StatementKind) (parameters : Nat) (sql : Text) : Client σ :=
  if c.config.logSql then
    c.report (.sending c.config.logLevel kind parameters (sql.shorten c.config.maxLoggedSql))
  else c

/-- Reports a statement that succeeded. -/
def confirm (c : Client σ) (kind : StatementKind) (rows : Nat) : Client σ :=
  if c.config.logSql then c.report (.finished kind rows) else c

/-- Follows a reply as far as it takes no time. -/
def follow (c : Client σ) : Reply σ β → Client σ × Arrival σ β
  | .answered events answer => (c, .full events answer)
  | .waiting delay change next =>
    if delay.nanos = 0 then { c with behind := change c.behind }.follow (next c.behind)
    else (c, .partly ⟨c.clock + delay.nanos, change, next⟩)

/-- Gives work to the executor, under the time limit. -/
def send (c : Client σ) (work : σ → Reply σ β × σ) : Client σ × Arrival σ β :=
  let (reply, behind) := work c.behind
  { c with behind := behind }.follow (reply.within c.config.timeout)

/-- Follows a reply whose time has come. -/
def resume? (c : Client σ) (p : Pending σ β) : Option (Client σ × Arrival σ β) :=
  if p.due ≤ c.clock then some ({ c with behind := p.change c.behind }.follow (p.next c.behind))
  else none

/-- What is reported when a request is answered. -/
def receive (c : Client σ) : (r : Request) → List Event → Except Error r.Answer → Client σ
  | .query kind _, events, .ok rows => (c.reportAll events).confirm kind rows.length
  | .execute kind _, events, .ok affected => (c.reportAll events).confirm kind affected
  | _, events, _ => c.reportAll events

def accept (c : Client σ) (r : Request) : Arrival σ r.Answer → Client σ × Progress σ r
  | .full events answer => (c.receive r events answer, .now answer)
  | .partly pending => (c, .later (.reply pending))

/-! Foreign keys -/

/-- Ends a load with the answer to its statement. -/
def finishLoad (c : Client σ) (ticket : Ticket) (events : List Event)
    (answer : Except Error (List Row)) : Client σ × Except Error Graph :=
  let c := match answer with
    | .ok rows => (c.reportAll events).confirm .graph rows.length
    | .error _ => c.reportAll events
  match answer >>= Graph.ofRows with
  | .ok graph =>
    ({ c.report (.graphLoaded graph.length) with graphs := c.graphs.publish ticket (.ok graph) },
      .ok graph)
  | .error e =>
    ({ c.report (.graphFailed e.message) with
        graphs := c.graphs.publish ticket (.error e.message) }, .error (.graph e.message))

def acceptGraph (c : Client σ) (ticket : Ticket) :
    Arrival σ (List Row) → Client σ × Progress σ .graph
  | .full events answer =>
    let (c, graph) := c.finishLoad ticket events answer
    (c, .now graph)
  | .partly pending => (c, .later (.load ticket pending))

def startLoad (c : Client σ) (ticket : Ticket) : Client σ × Progress σ .graph :=
  let s := Graph.statement c.config.schemas
  let (c, arrival) := (c.announce .graph s.params.length s.sql).send (c.executor.query s)
  c.acceptGraph ticket arrival

def findGraph (c : Client σ) : Client σ × Progress σ .graph :=
  match c.graphs.enter with
  | (graphs, .ready graph) => ({ c with graphs := graphs }, .now (.ok graph))
  | (graphs, .wait channel) => ({ c with graphs := graphs }, .later (.share channel))
  | (graphs, .lead ticket) => { c with graphs := graphs }.startLoad ticket

/-! Jobs -/

def begin (c : Client σ) : (r : Request) → Client σ × Progress σ r
  | .query kind s =>
    let (c, arrival) := (c.announce kind s.params.length s.sql).send (c.executor.query s)
    c.accept (.query kind s) arrival
  | .execute kind s =>
    let (c, arrival) := (c.announce kind s.params.length s.sql).send (c.executor.execute s)
    c.accept (.execute kind s) arrival
  | .batch sql =>
    let (c, arrival) := (c.announce .raw 0 sql).send (c.executor.batch sql)
    c.accept (.batch sql) arrival
  | .graph => c.findGraph

/-- A lane that begins to wait. -/
def hold (c : Client σ) (request : Request) (wait : Wait σ request)
    (next : Except Error request.Answer → Job α) : Client σ × Lane σ α :=
  ({ c with waits := c.waits + 1 }, .held c.waits request wait next)

/-- Runs a job until it ends or has to wait. -/
def advance {α : Type} (c : Client σ) : Job α → Client σ × Lane σ α
  | .done value => (c, .ended value)
  | .note event next => (c.report event).advance next
  | .ask request next =>
    match c.begin request with
    | (c, .now answer) => c.advance (next answer)
    | (c, .later wait) => c.hold request wait next
  | .both order first second next =>
    let (c, first) := c.advance first
    let (c, second) := c.advance second
    match first, second with
    | .ended a, .ended b => c.advance (next (a, b))
    | first, second => (c, .both order first second next)

/-- Goes on behind two lanes when both have ended. -/
def join (c : Client σ) (order : Order) (first : Lane σ β) (second : Lane σ γ)
    (next : β × γ → Job α) : Client σ × Lane σ α :=
  match first, second with
  | .ended a, .ended b => c.advance (next (a, b))
  | first, second => (c, .both order first second next)

theorem advance_both (c : Client σ) (order : Order) (first : Job β) (second : Job γ)
    (next : β × γ → Job α) :
    c.advance (.both order first second next) =
      ((c.advance first).1.advance second).1.join order (c.advance first).2
        ((c.advance first).1.advance second).2 next := by
  rw [advance]; rfl

/-- How far a request has come by now, if it has moved at all. -/
def collect? (c : Client σ) : (r : Request) → Wait σ r → Option (Client σ × Progress σ r)
  | r, .reply pending => (c.resume? pending).map fun (c, arrival) => c.accept r arrival
  | _, .load ticket pending =>
    (c.resume? pending).map fun (c, arrival) => c.acceptGraph ticket arrival
  | _, .share channel =>
    (c.graphs.outcome? channel).map fun outcome =>
      (c, .now (match outcome with
        | .ok graph => .ok graph
        | .error detail => .error (.graph detail)))

/-- Lets the wait of one number go on if it can. -/
def wake? {α : Type} (c : Client σ) (number : Nat) : Lane σ α → Option (Client σ × Lane σ α)
  | .held n request wait next =>
    if n = number then
      (c.collect? request wait).map fun
        | (c, .now answer) => c.advance (next answer)
        | (c, .later wait) => c.hold request wait next
    else none
  | .both order first second next =>
    match c.wake? number first with
    | some (c, first) => some (c.join order first second next)
    | none =>
      match c.wake? number second with
      | some (c, second) => some (c.join order first second next)
      | none => none
  | .ended _ | .dropped => none

end Client

end FluentQuery
