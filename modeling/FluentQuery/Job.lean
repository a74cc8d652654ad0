import FluentQuery.Event
import FluentQuery.ForeignKey

/-! Work that talks to a server, as data: a job ends with a value, reports an event, asks a request
and goes on from whatever answer it gets, or does two jobs side by side. How requests are answered,
and what runs meanwhile, is not said here. -/
namespace FluentQuery

inductive Request where
  | query (kind : StatementKind) (statement : Statement)
  | execute (kind : StatementKind) (statement : Statement)
  /-- Statements without parameters. -/
  | batch (sql : Text)
  /-- The foreign keys, loaded if they are not known yet. -/
  | graph
deriving DecidableEq

/-- What a request yields when it succeeds. -/
abbrev Request.Answer : Request → Type
  | .query .. => List Row
  | .execute .. => Nat
  | .batch _ => Unit
  | .graph => Graph

/-- Which of two jobs goes on first when the answers of both are there. -/
inductive Order where
  /-- The one that stands first. -/
  | listed
  /-- The one that has waited longer. -/
  | waited
deriving DecidableEq, Repr

inductive Job : Type → Type 1 where
  | done {α : Type} (value : α) : Job α
  | note {α : Type} (event : Event) (next : Job α) : Job α
  | ask {α : Type} (request : Request) (next : Except Error request.Answer → Job α) : Job α
  /-- Two jobs side by side, and what follows when both have ended. -/
  | both {α β γ : Type} (order : Order) (first : Job β) (second : Job γ)
      (next : β × γ → Job α) : Job α

namespace Job

variable {α β γ : Type}

def bind : Job α → (α → Job β) → Job β
  | .done value, f => f value
  | .note event next, f => .note event (next.bind f)
  | .ask request next, f => .ask request fun answer => (next answer).bind f
  | .both order first second next, f => .both order first second fun values => (next values).bind f

instance : Monad Job where
  pure := .done
  bind := bind

theorem bind_done (t : Job α) : t.bind .done = t := by
  induction t with
  | done => rfl
  | note event next ih => rw [bind, ih]
  | ask request next ih => rw [bind]; congr 1; funext answer; exact ih answer
  | both order first second next _ _ ih => rw [bind]; congr 1; funext values; exact ih values

theorem bind_assoc (t : Job α) (f : α → Job β) (g : β → Job γ) :
    (t.bind f).bind g = t.bind fun value => (f value).bind g := by
  induction t with
  | done => rfl
  | note event next ih => simp only [bind, ih]
  | ask request next ih => simp only [bind]; congr 1; funext answer; exact ih answer f
  | both order first second next _ _ ih =>
    simp only [bind]; congr 1; funext values; exact ih values f

instance : LawfulMonad Job :=
  LawfulMonad.mk' Job bind_done (fun _ _ => rfl) bind_assoc

/-- Jobs side by side, and their values in order. -/
def chain (order : Order) : List (Job α) → Job (List α)
  | [] => .done []
  | job :: rest => .both order job (chain order rest) fun (value, values) => .done (value :: values)

/-- How many jobs at most go on in their own order; of more, whichever has waited longest goes
on first. -/
def mostListed : Nat := 30

/-- Does all jobs side by side. -/
def all (jobs : List (Job α)) : Job (List α) :=
  chain (if jobs.length ≤ mostListed then .listed else .waited) jobs

def report (event : Event) : Job Unit :=
  .note event (.done ())

def reportAll : List Event → Job Unit
  | [] => .done ()
  | event :: rest => .note event (reportAll rest)

end Job

/-- A job that may fail. -/
abbrev Attempt := ExceptT Error Job

namespace Attempt

variable {α : Type}

def ask (request : Request) : Attempt request.Answer :=
  ExceptT.mk (Job.ask request Job.done)

def query (kind : StatementKind) (s : Statement) : Attempt (List Row) :=
  ask (.query kind s)

def execute (kind : StatementKind) (s : Statement) : Attempt Nat :=
  ask (.execute kind s)

/-- A failing argument fails the job before it asks anything. -/
def valid (r : Except Invalid α) : Attempt α :=
  match r with
  | .ok value => pure value
  | .error cause => throw (.invalid cause)

def report (event : Event) : Attempt Unit :=
  ExceptT.lift (Job.report event)

def reportAll (events : List Event) : Attempt Unit :=
  ExceptT.lift (Job.reportAll events)

end Attempt

end FluentQuery
