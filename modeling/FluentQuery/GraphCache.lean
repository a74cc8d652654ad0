import FluentQuery.ForeignKey

/-! The foreign-key graph that the calls of one client share. The first caller that finds it
missing leads a load; callers that come meanwhile wait on its channel and share the outcome. An
invalidation starts a new generation: a load of an older one still serves its waiters, but is not
kept. Each operation is what a caller does between two waits. -/
namespace FluentQuery

/-- What has become of a load. -/
inductive Channel where
  | running
  | resolved (outcome : Except Text Graph)
  /-- Its leader is gone and will never resolve it. -/
  | abandoned

/-- The right and the duty to finish a load: its channel, and the generation in which it began. -/
structure Ticket where
  channel : Nat
  generation : Nat
deriving DecidableEq, Repr

structure GraphCache where
  cached : Option Graph
  /-- The channel of the last load that began, until it is resolved. -/
  flight : Option Nat
  /-- All loads so far, in the order in which they began. -/
  channels : List Channel
  generation : Nat

namespace GraphCache

def empty : GraphCache := ⟨none, none, [], 0⟩

def channel (c : GraphCache) (id : Nat) : Channel :=
  c.channels.getD id .abandoned

def isRunning (c : GraphCache) (id : Nat) : Bool :=
  match c.channel id with
  | .running => true
  | _ => false

/-- The outcome on a channel, once there is one. -/
def outcome? (c : GraphCache) (id : Nat) : Option (Except Text Graph) :=
  match c.channel id with
  | .resolved outcome => some outcome
  | _ => none

/-- Whether a waiter on the channel has to look for the graph anew. -/
def isAbandoned (c : GraphCache) (id : Nat) : Bool :=
  match c.channel id with
  | .abandoned => true
  | _ => false

inductive Entry where
  | ready (graph : Graph)
  | wait (channel : Nat)
  | lead (ticket : Ticket)

/-- Takes the graph, joins the load in flight, or begins one. -/
def enter (c : GraphCache) : GraphCache × Entry :=
  match c.cached with
  | some graph => (c, .ready graph)
  | none =>
    match c.flight.filter c.isRunning with
    | some id => (c, .wait id)
    | none =>
      ({ c with flight := some c.channels.length, channels := c.channels ++ [.running] },
        .lead ⟨c.channels.length, c.generation⟩)

/-- Ends a load: the channel gets the outcome, and a graph of this generation is kept. -/
def publish (c : GraphCache) (ticket : Ticket) (outcome : Except Text Graph) : GraphCache :=
  let cached := match outcome with
    | .ok graph => if c.generation = ticket.generation then some graph else c.cached
    | .error _ => c.cached
  { c with
    cached := cached
    flight := none
    channels := c.channels.set ticket.channel (.resolved outcome) }

/-- The leader of a load goes away. -/
def abandon (c : GraphCache) (ticket : Ticket) : GraphCache :=
  { c with channels := c.channels.set ticket.channel .abandoned }

def invalidate (c : GraphCache) : GraphCache :=
  { c with cached := none, generation := c.generation + 1 }

@[simp] theorem cached_invalidate (c : GraphCache) : c.invalidate.cached = none := rfl

@[simp] theorem cached_abandon (c : GraphCache) (t : Ticket) :
    (c.abandon t).cached = c.cached := rfl

theorem cached_enter (c : GraphCache) : c.enter.1.cached = c.cached := by
  unfold enter
  split
  · rfl
  · split <;> simp_all

/-- A load of an older generation changes nothing that is kept. -/
theorem cached_publish_of_ne (c : GraphCache) (t : Ticket) (outcome : Except Text Graph)
    (h : c.generation ≠ t.generation) : (c.publish t outcome).cached = c.cached := by
  cases outcome <;> simp [publish, h]

end GraphCache

end FluentQuery
