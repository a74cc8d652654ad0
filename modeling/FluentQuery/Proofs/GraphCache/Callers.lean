import Mathlib.Data.List.Induction
import Mathlib.Logic.Function.Basic
import FluentQuery.GraphCache

/-! The callers of one cache of foreign keys. A move is what one caller does between two waits, with
nobody else moving meanwhile; the moves of all callers, and invalidations, come in any order. How a
load ends, and who is dropped when, is left open. -/
namespace FluentQuery.GraphCache

/-! Channels -/

variable {c d : GraphCache} {id : Nat}

theorem isRunning_iff : c.isRunning id = true ↔ c.channels[id]? = some .running := by
  unfold isRunning channel
  rw [List.getD_eq_getElem?_getD]
  cases c.channels[id]? with
  | none => simp
  | some channel => cases channel <;> simp

theorem outcome?_eq_some_iff {outcome : Except Text Graph} :
    c.outcome? id = some outcome ↔ c.channels[id]? = some (.resolved outcome) := by
  unfold outcome? channel
  rw [List.getD_eq_getElem?_getD]
  cases c.channels[id]? with
  | none => simp
  | some channel => cases channel <;> simp

theorem isAbandoned_eq_false_iff :
    c.isAbandoned id = false ↔
      ∃ channel, c.channels[id]? = some channel ∧ channel ≠ .abandoned := by
  unfold isAbandoned channel
  rw [List.getD_eq_getElem?_getD]
  cases c.channels[id]? with
  | none => simp
  | some channel => cases channel <;> simp

/-- A channel is led, or has an outcome, or is closed without one. -/
theorem channel_cases (c : GraphCache) (id : Nat) :
    c.isRunning id = true ∨ (∃ outcome, c.outcome? id = some outcome) ∨
      c.isAbandoned id = true := by
  unfold isRunning outcome? isAbandoned
  cases c.channel id with
  | running => exact .inl rfl
  | resolved outcome => exact .inr (.inl ⟨outcome, rfl⟩)
  | abandoned => exact .inr (.inr rfl)

/-- An outcome after one channel was set stood before, or is the one that was set. -/
theorem outcome?_of_set {place : Nat} {channel : Channel} {outcome : Except Text Graph}
    (now : d.channels = c.channels.set place channel) (there : d.outcome? id = some outcome) :
    c.outcome? id = some outcome ∨ channel = .resolved outcome := by
  rw [outcome?_eq_some_iff, now, List.getElem?_set] at there
  rw [outcome?_eq_some_iff]
  split at there
  · split at there
    · exact .inr (Option.some.inj there)
    · cases there
  · exact .inl there

/-- What comes of entering: the graph that is kept, the load in flight, or a new load. -/
theorem enter_cases {entry : Entry} (enters : c.enter = (d, entry)) :
    (∃ graph, c.cached = some graph ∧ d = c ∧ entry = .ready graph) ∨
    (∃ id, c.cached = none ∧ c.flight = some id ∧ c.isRunning id = true ∧ d = c ∧
      entry = .wait id) ∨
    c.cached = none ∧ (∀ id, c.flight = some id → c.isRunning id = false) ∧
      d = { c with flight := some c.channels.length, channels := c.channels ++ [.running] } ∧
      entry = .lead ⟨c.channels.length, c.generation⟩ := by
  unfold enter at enters
  split at enters
  · next graph cached =>
    obtain ⟨rfl, rfl⟩ := Prod.mk.inj enters
    exact .inl ⟨graph, cached, rfl, rfl⟩
  · next cached =>
    split at enters
    · next id found =>
      obtain ⟨flight, running⟩ := Option.filter_eq_some_iff.1 found
      obtain ⟨rfl, rfl⟩ := Prod.mk.inj enters
      exact .inr (.inl ⟨id, cached, flight, running, rfl, rfl⟩)
    · next free =>
      obtain ⟨rfl, rfl⟩ := Prod.mk.inj enters
      refine .inr (.inr ⟨cached, fun id flight => ?_, rfl, rfl⟩)
      rw [flight, Option.filter_eq_none_iff] at free
      simpa using free id rfl

/-! Moves -/

/-- Where a caller of the cache stands. -/
inductive Caller where
  | idle
  | waiting (channel : Nat)
  | leading (ticket : Ticket)
  | returned (result : Except Text Graph)
  | dropped

/-- Where a caller stands that has entered. -/
def Entry.caller : Entry → Caller
  | .ready graph => .returned (.ok graph)
  | .wait channel => .waiting channel
  | .lead ticket => .leading ticket

/-- A cache and whoever may ever call it. -/
structure Scene where
  graphs : GraphCache
  callers : Nat → Caller

def Scene.start : Scene :=
  ⟨empty, fun _ => .idle⟩

inductive Move where
  /-- A call begins. -/
  | call (caller : Nat) (entry : Entry)
  /-- A waiter whose load was abandoned enters anew. -/
  | retry (caller : Nat) (entry : Entry)
  /-- A waiter gets the outcome of the load. -/
  | share (caller channel : Nat) (outcome : Except Text Graph)
  /-- A leader ends its load. -/
  | finish (caller : Nat) (ticket : Ticket) (outcome : Except Text Graph)
  | drop (caller : Nat)
  | invalidate

/-- The caller whose move it is. -/
def Move.caller? : Move → Option Nat
  | .call i _ | .retry i _ | .share i _ _ | .finish i _ _ | .drop i => some i
  | .invalidate => none

inductive Step : Scene → Move → Scene → Prop
  | call {s : Scene} {i : Nat} {graphs : GraphCache} {entry : Entry} (idle : s.callers i = .idle)
      (enters : s.graphs.enter = (graphs, entry)) :
    Step s (.call i entry) ⟨graphs, Function.update s.callers i entry.caller⟩
  | retry {s : Scene} {i channel : Nat} {graphs : GraphCache} {entry : Entry}
      (waits : s.callers i = .waiting channel) (gone : s.graphs.isAbandoned channel = true)
      (enters : s.graphs.enter = (graphs, entry)) :
    Step s (.retry i entry) ⟨graphs, Function.update s.callers i entry.caller⟩
  | share {s : Scene} {i channel : Nat} {outcome : Except Text Graph}
      (waits : s.callers i = .waiting channel) (there : s.graphs.outcome? channel = some outcome) :
    Step s (.share i channel outcome) ⟨s.graphs, Function.update s.callers i (.returned outcome)⟩
  | finish {s : Scene} {i : Nat} {ticket : Ticket} (leads : s.callers i = .leading ticket)
      (outcome : Except Text Graph) :
    Step s (.finish i ticket outcome)
      ⟨s.graphs.publish ticket outcome, Function.update s.callers i (.returned outcome)⟩
  | leave {s : Scene} {i channel : Nat} (waits : s.callers i = .waiting channel) :
    Step s (.drop i) ⟨s.graphs, Function.update s.callers i .dropped⟩
  | abandon {s : Scene} {i : Nat} {ticket : Ticket} (leads : s.callers i = .leading ticket) :
    Step s (.drop i) ⟨s.graphs.abandon ticket, Function.update s.callers i .dropped⟩
  | invalidate {s : Scene} : Step s .invalidate { s with graphs := s.graphs.invalidate }

/-- Some moves, one after the other. -/
inductive Run (r : Scene) : List Move → Scene → Prop
  | refl : Run r [] r
  | step {moves : List Move} {s t : Scene} {m : Move} (run : Run r moves s) (step : Step s m t) :
    Run r (moves ++ [m]) t

namespace Run

variable {r s t : Scene} {front back moves : List Move} {m : Move}

theorem last (run : Run r (moves ++ [m]) t) : ∃ s, Run r moves s ∧ Step s m t := by
  generalize whole : moves ++ [m] = all at run
  cases run with
  | refl => simp at whole
  | step run step =>
    obtain ⟨rfl, rfl⟩ := List.append_singleton_inj.1 whole
    exact ⟨_, run, step⟩

theorem split (run : Run r (front ++ back) t) : ∃ s, Run r front s ∧ Run s back t := by
  induction back using List.reverseRecOn generalizing t with
  | nil => exact ⟨t, by simpa using run, .refl⟩
  | append_singleton back m ih =>
    rw [← List.append_assoc] at run
    obtain ⟨u, before, step⟩ := run.last
    obtain ⟨s, first, second⟩ := ih before
    exact ⟨s, first, second.step step⟩

theorem trans (run : Run r front s) (later : Run s back t) : Run r (front ++ back) t := by
  induction later with
  | refl => simpa using run
  | @step moves _ _ m later step ih =>
    rw [← List.append_assoc]
    exact ih.step step

theorem eq_of_nil (run : Run r [] t) : t = r := by
  generalize none : ([] : List Move) = all at run
  cases run with
  | refl => rfl
  | step run step => simp at none

theorem head (run : Run r (m :: moves) t) : ∃ s, Step r m s ∧ Run s moves t := by
  rw [← List.singleton_append] at run
  obtain ⟨s, first, second⟩ := run.split
  rw [← List.nil_append [m]] at first
  obtain ⟨u, none, step⟩ := first.last
  cases none.eq_of_nil
  exact ⟨s, step, second⟩

end Run

/-! What a step changes -/

namespace Step

variable {s t : Scene} {m : Move} {i : Nat} {ticket : Ticket}

/-- The graph that is kept changes only when it is forgotten, or when a load of the present
generation succeeds. -/
theorem cached_cases (step : Step s m t) :
    t.graphs.cached = s.graphs.cached ∨ m = .invalidate ∧ t.graphs.cached = none ∨
      ∃ i ticket graph, m = .finish i ticket (.ok graph) ∧ s.callers i = .leading ticket ∧
        ticket.generation = s.graphs.generation ∧ t.graphs.cached = some graph := by
  cases step with
  | call idle enters => exact .inl ((congrArg (·.1.cached) enters).symm.trans (cached_enter _))
  | retry waits gone enters =>
    exact .inl ((congrArg (·.1.cached) enters).symm.trans (cached_enter _))
  | share waits there => exact .inl rfl
  | @finish i ticket leads outcome =>
    cases outcome with
    | error detail => exact .inl rfl
    | ok graph =>
      by_cases present : s.graphs.generation = ticket.generation
      · exact .inr (.inr ⟨i, ticket, graph, rfl, leads, present.symm, by simp [publish, present]⟩)
      · exact .inl (cached_publish_of_ne _ _ _ present)
  | leave waits => exact .inl rfl
  | abandon leads => exact .inl rfl
  | invalidate => exact .inr (.inl ⟨rfl, rfl⟩)

theorem generation_of_ne (step : Step s m t) (other : m ≠ .invalidate) :
    t.graphs.generation = s.graphs.generation := by
  have entered {graphs : GraphCache} {entry : Entry} (enters : s.graphs.enter = (graphs, entry)) :
      graphs.generation = s.graphs.generation := by
    obtain ⟨_, -, rfl, -⟩ | ⟨_, -, -, -, rfl, -⟩ | ⟨-, -, rfl, -⟩ := enter_cases enters <;> rfl
  cases step with
  | call idle enters => exact entered enters
  | retry waits gone enters => exact entered enters
  | invalidate => exact absurd rfl other
  | share | finish | leave | abandon => rfl

/-- A caller moves only by its own moves. -/
theorem callers_of_ne (step : Step s m t) (other : m.caller? ≠ some i) :
    t.callers i = s.callers i := by
  cases step with
  | invalidate => rfl
  | _ => exact Function.update_of_ne (fun same => other (congrArg some same.symm)) ..

/-- A leader goes on leading until its load ends or it is dropped. -/
theorem leading_cases (step : Step s m t) (leads : s.callers i = .leading ticket) :
    t.callers i = .leading ticket ∨ (∃ outcome, m = .finish i ticket outcome) ∨ m = .drop i := by
  by_cases own : m.caller? = some i
  · cases step with
    | call idle enters =>
      cases own
      cases idle.symm.trans leads
    | retry waits gone enters =>
      cases own
      cases waits.symm.trans leads
    | share waits there =>
      cases own
      cases waits.symm.trans leads
    | finish leader outcome =>
      cases own
      cases leader.symm.trans leads
      exact .inr (.inl ⟨outcome, rfl⟩)
    | leave | abandon =>
      cases own
      exact .inr (.inr rfl)
    | invalidate => cases own
  · exact .inl ((step.callers_of_ne own).trans leads)

end Step

/-! Loads -/

/-- The load that begins with a move, and its leader. -/
def Move.begins? : Move → Option (Nat × Ticket)
  | .call i (.lead ticket) | .retry i (.lead ticket) => some (i, ticket)
  | _ => none

/-- The caller began a load, and `since` are the moves that followed. -/
def Began (moves : List Move) (i : Nat) (ticket : Ticket) (since : List Move) : Prop :=
  ∃ front m, moves = front ++ m :: since ∧ m.begins? = some (i, ticket)

/-- A load begins when no graph is kept and no load is in flight. -/
theorem Step.begins {s t : Scene} {m : Move} {i : Nat} {ticket : Ticket} (step : Step s m t)
    (begins : m.begins? = some (i, ticket)) :
    s.graphs.cached = none ∧ (∀ id, s.graphs.flight = some id → s.graphs.isRunning id = false) ∧
      ticket.generation = s.graphs.generation ∧ t.callers i = .leading ticket := by
  have entered {j : Nat} {graphs : GraphCache} {entry : Entry}
      (enters : s.graphs.enter = (graphs, entry)) (leads : entry = .lead ticket) (here : j = i) :
      s.graphs.cached = none ∧ (∀ id, s.graphs.flight = some id → s.graphs.isRunning id = false) ∧
        ticket.generation = s.graphs.generation ∧
        Function.update s.callers j entry.caller i = .leading ticket := by
    obtain ⟨_, -, -, rfl⟩ | ⟨_, -, -, -, -, rfl⟩ | ⟨cached, free, -, rfl⟩ := enter_cases enters
    · cases leads
    · cases leads
    · cases leads
      subst here
      exact ⟨cached, free, rfl, Function.update_self ..⟩
  unfold Move.begins? at begins
  split at begins
  · cases begins
    cases step with
    | call idle enters => exact entered enters rfl rfl
  · cases begins
    cases step with
    | retry waits gone enters => exact entered enters rfl rfl
  · cases begins

namespace Began

variable {moves since front back : List Move} {m : Move} {i : Nat} {ticket : Ticket}

theorem append (began : Began front i ticket since) (back : List Move) :
    Began (front ++ back) i ticket (since ++ back) := by
  obtain ⟨early, first, rfl, begins⟩ := began
  exact ⟨early, first, by simp, begins⟩

theorem prepend (began : Began back i ticket since) (front : List Move) :
    Began (front ++ back) i ticket since := by
  obtain ⟨early, first, rfl, begins⟩ := began
  exact ⟨front ++ early, first, by simp, begins⟩

theorem append_cases (began : Began (front ++ back) i ticket since) :
    (∃ earlier, since = earlier ++ back ∧ Began front i ticket earlier) ∨
      Began back i ticket since := by
  obtain ⟨early, first, whole, begins⟩ := began
  obtain ⟨between, -, rest⟩ | ⟨between, rfl, rest⟩ := List.append_eq_append_iff.1 whole
  · exact .inr ⟨between, first, rest, begins⟩
  · obtain _ | ⟨m, earlier⟩ := between
    · exact .inr ⟨[], first, rest.symm, begins⟩
    · obtain ⟨rfl, rfl⟩ := List.cons.inj rest
      exact .inl ⟨earlier, rfl, early, first, rfl, begins⟩

theorem singleton (began : Began [m] i ticket since) :
    since = [] ∧ m.begins? = some (i, ticket) := by
  obtain ⟨early, first, whole, begins⟩ := began
  obtain ⟨rfl, same⟩ | ⟨_, -, rest⟩ := List.cons_eq_append_iff.1 whole
  · obtain ⟨rfl, rfl⟩ := List.cons.inj same
    exact ⟨rfl, begins⟩
  · simp at rest

theorem snoc_cases (began : Began (moves ++ [m]) i ticket since) :
    since = [] ∧ m.begins? = some (i, ticket) ∨
      ∃ earlier, since = earlier ++ [m] ∧ Began moves i ticket earlier :=
  began.append_cases.symm.imp_left singleton

theorem tail (began : Began (m :: back) i ticket since) (other : m.begins? = none) :
    Began back i ticket since := by
  rw [← List.singleton_append] at began
  obtain ⟨_, -, now⟩ | later := began.append_cases
  · cases now.singleton.2.symm.trans other
  · exact later

end Began

end FluentQuery.GraphCache
