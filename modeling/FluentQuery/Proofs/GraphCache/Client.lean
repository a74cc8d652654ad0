import Mathlib.Logic.Relation
import FluentQuery.Proofs.Client
import FluentQuery.Proofs.GraphCache.Stale

/-! The jobs of a client are such callers. Each wait for the foreign keys is a caller that leads or
waits, and whatever the client does with its lanes moves the cache as a run of callers does:
`Client.run_of_history`. -/
namespace FluentQuery

open GraphCache (Caller Scene Step Run Move)
open Relation (ReflTransGen)

variable {σ α β γ : Type}

namespace GraphCache

/-- The callers stand in the scene, each at a number of its own, and numbers are left for more. -/
def Scene.Seats (s : Scene) (callers : List Caller) : Prop :=
  ∃ seats : List Nat, seats.Nodup ∧ (seats.map s.callers).Perm callers ∧
    ∃ bound, ∀ i, bound ≤ i → s.callers i = .idle ∧ i ∉ seats

namespace Scene.Seats

variable {s : Scene} {caller : Caller} {callers others : List Caller}

theorem start : Scene.start.Seats [] :=
  ⟨[], .nil, .nil, 0, fun _ _ => ⟨rfl, List.not_mem_nil⟩⟩

theorem perm (seated : s.Seats callers) (same : callers.Perm others) : s.Seats others := by
  obtain ⟨seats, apart, stand, free⟩ := seated
  exact ⟨seats, apart, stand.trans same, free⟩

/-- The number of one of the callers, and those of the others. -/
theorem first (seated : s.Seats (caller :: callers)) : ∃ i seats, (i :: seats).Nodup ∧
    s.callers i = caller ∧ (seats.map s.callers).Perm callers ∧
      ∃ bound, ∀ j, bound ≤ j → s.callers j = .idle ∧ j ∉ i :: seats := by
  obtain ⟨seats, apart, stand, bound, free⟩ := seated
  obtain ⟨i, member, here⟩ := List.mem_map.1 (stand.mem_iff.2 List.mem_cons_self)
  have order := List.perm_cons_erase member
  refine ⟨i, seats.erase i, order.nodup_iff.1 apart, here, ?_, bound, fun j far => ?_⟩
  · have whole := (order.map s.callers).symm.trans stand
    rw [List.map_cons, here] at whole
    exact whole.cons_inv
  · exact ⟨(free j far).1, fun among => (free j far).2 (order.mem_iff.2 among)⟩

theorem tail (seated : s.Seats (caller :: callers)) : s.Seats callers := by
  obtain ⟨i, seats, apart, -, stand, bound, free⟩ := seated.first
  exact ⟨seats, (List.nodup_cons.1 apart).2, stand, bound,
    fun j far => ⟨(free j far).1, fun among => (free j far).2 (List.mem_cons_of_mem _ among)⟩⟩

theorem map_update {seats : List Nat} {i : Nat} (other : i ∉ seats) :
    seats.map (Function.update s.callers i caller) = seats.map s.callers :=
  List.map_congr_left fun j among =>
    Function.update_of_ne (fun same : j = i => other (same ▸ among)) _ _

/-- One of the callers moves. -/
theorem move (seated : s.Seats (caller :: callers)) : ∃ i, s.callers i = caller ∧
    ∀ graphs after, Seats ⟨graphs, Function.update s.callers i after⟩ (after :: callers) := by
  obtain ⟨i, seats, apart, here, stand, bound, free⟩ := seated.first
  refine ⟨i, here, fun graphs after => ⟨i :: seats, apart, ?_, bound, fun j far => ?_⟩⟩
  · rw [List.map_cons, map_update (List.nodup_cons.1 apart).1]
    simpa using stand
  · obtain ⟨idle, none⟩ := free j far
    exact ⟨(Function.update_of_ne (List.ne_of_not_mem_cons none) _ _).trans idle, none⟩

/-- One more caller moves. -/
theorem join (seated : s.Seats callers) : ∃ i, s.callers i = .idle ∧
    ∀ graphs after, Seats ⟨graphs, Function.update s.callers i after⟩ (after :: callers) := by
  obtain ⟨seats, apart, stand, bound, free⟩ := seated
  obtain ⟨idle, none⟩ := free bound (Nat.le_refl _)
  refine ⟨bound, idle, fun graphs after =>
    ⟨bound :: seats, List.nodup_cons.2 ⟨none, apart⟩, ?_, bound + 1, fun j far => ?_⟩⟩
  · rw [List.map_cons, map_update none]
    simpa using stand
  · obtain ⟨idle, none⟩ := free j (Nat.le_of_succ_le far)
    have apart : j ≠ bound := Nat.ne_of_gt (Nat.lt_of_succ_le far)
    exact ⟨(Function.update_of_ne apart _ _).trans idle, by simp [apart, none]⟩

end Scene.Seats

/-- Some moves lead from one cache to the other, and the callers from where they stand to where
they then stand, whoever else there is. -/
def Along (c d : GraphCache) (before after : List Caller) : Prop :=
  ∀ s rest, s.graphs = c → s.Seats (before ++ rest) →
    ∃ moves t, Run s moves t ∧ t.graphs = d ∧ t.Seats (after ++ rest)

variable {c d e : GraphCache} {before middle after : List Caller}

namespace Along

theorem refl (c : GraphCache) (callers : List Caller) : Along c c callers callers :=
  fun s _ same seated => ⟨[], s, .refl, same, seated⟩

theorem trans (first : Along c d before middle) (second : Along d e middle after) :
    Along c e before after := by
  intro s rest same seated
  obtain ⟨moves, t, run, same, seated⟩ := first s rest same seated
  obtain ⟨others, u, later, same, seated⟩ := second t rest same seated
  exact ⟨moves ++ others, u, run.trans later, same, seated⟩

theorem append (along : Along c d before after) (others : List Caller) :
    Along c d (before ++ others) (after ++ others) := by
  intro s rest same seated
  rw [List.append_assoc] at seated ⊢
  exact along s (others ++ rest) same seated

theorem prepend (along : Along c d before after) (others : List Caller) :
    Along c d (others ++ before) (others ++ after) := by
  intro s rest same seated
  have turn (callers : List Caller) :
      (others ++ callers ++ rest).Perm (callers ++ others ++ rest) :=
    List.perm_append_comm.append_right rest
  -- Who stands where in the list does not matter, so the others may come last.
  obtain ⟨moves, t, run, same, seated⟩ := along.append others s rest same (seated.perm (turn _))
  exact ⟨moves, t, run, same, seated.perm (turn _).symm⟩

/-- A caller that is done needs no number any more. -/
theorem leave {caller : Caller} (along : Along c d before (caller :: after)) :
    Along c d before after := by
  intro s rest same seated
  obtain ⟨moves, t, run, same, seated⟩ := along s rest same seated
  exact ⟨moves, t, run, same, seated.tail⟩

theorem gone (along : Along c d before after) : Along c d before [] := by
  induction after with
  | nil => exact along
  | cons caller after ih => exact ih along.leave

/-- One of the callers makes one move. -/
theorem step {caller after : Caller} {move : Nat → Move}
    (steps : ∀ (callers : Nat → Caller) i, callers i = caller →
      Step ⟨c, callers⟩ (move i) ⟨d, Function.update callers i after⟩) :
    Along c d [caller] [after] := by
  rintro ⟨_, callers⟩ rest rfl seated
  obtain ⟨i, here, moved⟩ := seated.move
  exact ⟨_, _, Run.refl.step (steps callers i here), rfl, moved d after⟩

end Along

/-- What a caller has to wait for that has entered. -/
def Entry.callers : Entry → List Caller
  | .ready _ => []
  | .wait channel => [.waiting channel]
  | .lead ticket => [.leading ticket]

theorem Along.entered {entry : Entry} (along : Along c d before [entry.caller]) :
    Along c d before entry.callers := by
  cases entry with
  | ready graph => exact along.leave
  | wait channel => exact along
  | lead ticket => exact along

theorem along_enter {entry : Entry} (enters : c.enter = (d, entry)) :
    Along c d [] entry.callers := by
  refine .entered ?_
  rintro s rest rfl seated
  obtain ⟨i, idle, moved⟩ := seated.join
  exact ⟨_, _, Run.refl.step (.call idle enters), rfl, moved d entry.caller⟩

theorem along_retry {channel : Nat} {entry : Entry} (gone : c.isAbandoned channel = true)
    (enters : c.enter = (d, entry)) : Along c d [.waiting channel] entry.callers :=
  .entered (.step fun _ _ waits => .retry waits gone enters)

theorem along_share {channel : Nat} {outcome : Except Text Graph}
    (there : c.outcome? channel = some outcome) : Along c c [.waiting channel] [] :=
  .leave (.step fun _ _ waits => .share waits there)

theorem along_publish (ticket : Ticket) (outcome : Except Text Graph) :
    Along c (c.publish ticket outcome) [.leading ticket] [] :=
  .leave (.step fun _ _ leads => .finish leads outcome)

theorem along_abandon (ticket : Ticket) : Along c (c.abandon ticket) [.leading ticket] [] :=
  .leave (.step fun _ _ leads => .abandon leads)

theorem along_leave (channel : Nat) : Along c c [.waiting channel] [] :=
  .leave (.step fun _ _ waits => .leave waits)

theorem along_invalidate (callers : List Caller) : Along c c.invalidate callers callers := by
  rintro s rest rfl seated
  exact ⟨_, _, Run.refl.step .invalidate, rfl, seated⟩

end GraphCache

open GraphCache

/-! The callers of a lane -/

def Wait.callers {r : Request} : Wait σ r → List Caller
  | .reply _ => []
  | .load ticket _ => [.leading ticket]
  | .share channel => [.waiting channel]

def Progress.callers {r : Request} : Progress σ r → List Caller
  | .now _ => []
  | .later wait => wait.callers

def Lane.callers {α : Type} : Lane σ α → List Caller
  | .held _ _ wait _ => wait.callers
  | .both _ first second _ => first.callers ++ second.callers
  | .ended _ | .dropped => []

/-! Moves of a client -/

namespace Client

theorem graphs_announce (c : Client σ) (kind : StatementKind) (parameters : Nat) (sql : Text) :
    (c.announce kind parameters sql).graphs = c.graphs :=
  (c.announce_alike kind parameters sql).2.2

theorem graphs_follow (c : Client σ) (reply : Reply σ β) :
    (c.follow reply).1.graphs = c.graphs := by
  induction reply generalizing c with
  | answered events answer => rfl
  | waiting delay change next ih =>
    rw [follow]
    split
    · exact ih c.behind { c with behind := change c.behind }
    · rfl

theorem graphs_send (c : Client σ) (work : σ → Reply σ β × σ) :
    (c.send work).1.graphs = c.graphs :=
  graphs_follow { c with behind := (work c.behind).2 } _

theorem graphs_resume? {c d : Client σ} {pending : Pending σ β} {arrival : Arrival σ β}
    (resumed : c.resume? pending = some (d, arrival)) : d.graphs = c.graphs := by
  unfold resume? at resumed
  split at resumed
  · rw [← congrArg (·.1.graphs) (Option.some.inj resumed)]
    exact graphs_follow { c with behind := pending.change c.behind } _
  · cases resumed

theorem along_accept (c : Client σ) (r : Request) (arrival : Arrival σ r.Answer) :
    Along c.graphs (c.accept r arrival).1.graphs [] (c.accept r arrival).2.callers := by
  cases arrival with
  | full events answer =>
    rw [accept, (c.receive_alike r events answer).2.2]
    exact .refl _ _
  | partly pending => exact .refl _ _

theorem graphs_finishLoad (c : Client σ) (ticket : Ticket) (events : List Event)
    (answer : Except Error (List Row)) :
    ∃ outcome, (c.finishLoad ticket events answer).1.graphs = c.graphs.publish ticket outcome := by
  have same (rows : List Row) :
      ((c.reportAll events).confirm .graph rows.length).graphs = c.graphs := by
    unfold confirm
    split <;> rfl
  cases answer with
  | error e => exact ⟨.error e.message, rfl⟩
  | ok rows =>
    rw [finishLoad, ok_bind]
    cases Graph.ofRows rows with
    | ok graph => exact ⟨.ok graph, by rw [← same rows]⟩
    | error e => exact ⟨.error e.message, by rw [← same rows]⟩

theorem along_acceptGraph (c : Client σ) (ticket : Ticket) (arrival : Arrival σ (List Row)) :
    Along c.graphs (c.acceptGraph ticket arrival).1.graphs [.leading ticket]
      (c.acceptGraph ticket arrival).2.callers := by
  cases arrival with
  | full events answer =>
    obtain ⟨outcome, published⟩ := c.graphs_finishLoad ticket events answer
    rw [acceptGraph, published]
    exact along_publish ticket outcome
  | partly pending => exact .refl _ _

theorem along_startLoad (c : Client σ) (ticket : Ticket) :
    Along c.graphs (c.startLoad ticket).1.graphs [.leading ticket]
      (c.startLoad ticket).2.callers := by
  rw [startLoad]
  generalize Graph.statement c.config.schemas = s
  have sent : ((c.announce .graph s.params.length s.sql).send (c.executor.query s)).1.graphs =
      c.graphs := by
    rw [graphs_send, graphs_announce]
  rw [← sent]
  exact along_acceptGraph _ _ _

/-- A caller enters, for the first time or anew, and perhaps leads a load. -/
theorem along_findGraph_of (c : Client σ) {before : List Caller} (entered : ∀ graphs entry,
      c.graphs.enter = (graphs, entry) → Along c.graphs graphs before entry.callers) :
    Along c.graphs c.findGraph.1.graphs before c.findGraph.2.callers := by
  unfold findGraph
  split
  · next enters => exact entered _ _ enters
  · next enters => exact entered _ _ enters
  · next graphs ticket enters =>
    exact (entered _ _ enters).trans (along_startLoad { c with graphs := graphs } ticket)

theorem along_begin (c : Client σ) (r : Request) :
    Along c.graphs (c.begin r).1.graphs [] (c.begin r).2.callers := by
  have asked (kind : StatementKind) (parameters : Nat) (sql : Text)
      (work : σ → Reply σ r.Answer × σ) :
      let sent := (c.announce kind parameters sql).send work
      Along c.graphs (sent.1.accept r sent.2).1.graphs [] (sent.1.accept r sent.2).2.callers := by
    intro sent
    have same : sent.1.graphs = c.graphs := by rw [graphs_send, graphs_announce]
    rw [← same]
    exact along_accept _ _ _
  cases r with
  | query kind s => exact asked kind _ _ _
  | execute kind s => exact asked kind _ _ _
  | batch sql => exact asked .raw _ _ _
  | graph => exact along_findGraph_of c fun _ _ => along_enter

/-- A job goes on from the answer to its request, or waits for it. -/
theorem along_ask {request : Request} {next : Except Error request.Answer → Job α}
    (goes : ∀ (c : Client σ) answer,
      Along c.graphs (c.advance (next answer)).1.graphs [] (c.advance (next answer)).2.callers)
    (c : Client σ) {before : List Caller}
    (begun : Along c.graphs (c.begin request).1.graphs before (c.begin request).2.callers) :
    Along c.graphs (c.advance (.ask request next)).1.graphs before
      (c.advance (.ask request next)).2.callers := by
  rw [advance]
  split
  · next d answer ready =>
    rw [ready] at begun
    exact begun.trans (goes d answer)
  · next d wait waits =>
    rw [waits] at begun
    exact begun

/-- Two lanes go on with the next job when both have ended. -/
theorem along_both {next : β × γ → Job α} (goes : ∀ (c : Client σ) values,
      Along c.graphs (c.advance (next values)).1.graphs [] (c.advance (next values)).2.callers)
    (c : Client σ) (order : Order) (first : Lane σ β) (second : Lane σ γ) :
    Along c.graphs (c.join order first second next).1.graphs (first.callers ++ second.callers)
      (c.join order first second next).2.callers := by
  unfold join
  split
  · exact goes c _
  · exact .refl _ _

theorem along_advance (c : Client σ) (t : Job α) :
    Along c.graphs (c.advance t).1.graphs [] (c.advance t).2.callers := by
  induction t generalizing c with
  | done value => exact .refl _ _
  | note event next ih => exact ih (c.report event)
  | ask request next ih => exact along_ask (fun c answer => ih answer c) c (c.along_begin request)
  | both order first second next iha ihb ih =>
    rw [advance_both]
    have later := (ihb (c.advance first).1).prepend (c.advance first).2.callers
    rw [List.append_nil] at later
    exact ((iha c).trans later).trans (along_both (fun c values => ih values c) _ _ _ _)

theorem along_join (c : Client σ) (order : Order) (first : Lane σ β) (second : Lane σ γ)
    (next : β × γ → Job α) :
    Along c.graphs (c.join order first second next).1.graphs (first.callers ++ second.callers)
      (c.join order first second next).2.callers :=
  along_both (fun c values => along_advance c (next values)) c order first second

theorem along_collect? {c d : Client σ} {r : Request} {wait : Wait σ r} {progress : Progress σ r}
    (collected : c.collect? r wait = some (d, progress)) :
    Along c.graphs d.graphs wait.callers progress.callers := by
  cases wait with
  | reply pending =>
    obtain ⟨⟨e, arrival⟩, resumed, accepted⟩ := Option.map_eq_some_iff.1 collected
    have moved := along_accept e r arrival
    rw [graphs_resume? resumed, show e.accept r arrival = (d, progress) from accepted] at moved
    exact moved
  | load ticket pending =>
    obtain ⟨⟨e, arrival⟩, resumed, accepted⟩ := Option.map_eq_some_iff.1 collected
    have moved := along_acceptGraph e ticket arrival
    rw [graphs_resume? resumed,
      show e.acceptGraph ticket arrival = (d, progress) from accepted] at moved
    exact moved
  | share channel =>
    obtain ⟨outcome, there, shared⟩ := Option.map_eq_some_iff.1 collected
    cases shared
    exact along_share there

theorem along_wake? {α : Type} {c d : Client σ} {number : Nat} {before after : Lane σ α}
    (woken : c.wake? number before = some (d, after)) :
    Along c.graphs d.graphs before.callers after.callers := by
  induction before generalizing c d with
  | ended | dropped => cases woken
  | held n request wait next =>
    rw [wake?] at woken
    split at woken
    · obtain ⟨⟨e, progress⟩, collected, goes⟩ := Option.map_eq_some_iff.1 woken
      have moved := along_collect? collected
      cases progress with
      | now answer =>
        have later := along_advance e (next answer)
        rw [show e.advance (next answer) = (d, after) from goes] at later
        exact moved.trans later
      | later wait =>
        cases goes
        exact moved
    · cases woken
  | both order first second next iha ihb =>
    rw [wake?] at woken
    split at woken
    · next e lane goes =>
      have joined := along_join e order lane second next
      rw [Option.some.inj woken] at joined
      exact ((iha goes).append second.callers).trans joined
    · split at woken
      · next e lane goes =>
        have joined := along_join e order first lane next
        rw [Option.some.inj woken] at joined
        exact ((ihb goes).prepend first.callers).trans joined
      · cases woken

theorem along_wakeAll (c : Client σ) (lane : Lane σ α) (numbers : List Nat) :
    Along c.graphs (c.wakeAll lane numbers).1.graphs lane.callers
      (c.wakeAll lane numbers).2.1.callers := by
  induction numbers generalizing c lane with
  | nil => exact .refl _ _
  | cons number rest ih =>
    rw [wakeAll]
    split
    · next d woken goes => exact (along_wake? goes).trans (ih d woken)
    · exact ih c lane

/-- Lanes one after the other: the first moves while the others stand, then the others move. -/
theorem along_cons {c d e : Client σ} {lane moved : Lane σ α} {lanes rest : List (Lane σ α)}
    (first : Along c.graphs d.graphs lane.callers moved.callers)
    (later : Along d.graphs e.graphs (lanes.flatMap Lane.callers) (rest.flatMap Lane.callers)) :
    Along c.graphs e.graphs ((lane :: lanes).flatMap Lane.callers)
      ((moved :: rest).flatMap Lane.callers) :=
  (first.append _).trans (later.prepend _)

theorem along_turn (c : Client σ) (lanes : List (Lane σ α)) :
    Along c.graphs (c.turn lanes).1.graphs (lanes.flatMap Lane.callers)
      ((c.turn lanes).2.1.flatMap Lane.callers) := by
  induction lanes generalizing c with
  | nil => exact .refl _ _
  | cons lane rest ih => exact along_cons (along_wakeAll c lane (c.agenda lane)) (ih _)

theorem graphs_sleep (c : Client σ) (lanes : List (Lane σ α)) :
    (c.sleep lanes).graphs = c.graphs := by
  unfold sleep
  split <;> rfl

theorem along_round (c : Client σ) (lanes : List (Lane σ α)) :
    Along c.graphs (c.round lanes).1.graphs (lanes.flatMap Lane.callers)
      ((c.round lanes).2.1.flatMap Lane.callers) := by
  have turned := along_turn c lanes
  unfold round
  split
  · next d after goes =>
    rw [goes] at turned
    exact turned
  · next d after rests =>
    rw [rests] at turned
    have later := along_turn (d.sleep after) after
    rw [graphs_sleep] at later
    exact turned.trans later

theorem along_settle (c : Client σ) (lanes : List (Lane σ α)) :
    Along c.graphs (c.settle lanes).1.graphs (lanes.flatMap Lane.callers)
      ((c.settle lanes).2.flatMap Lane.callers) := by
  induction c, lanes using settle.induct with
  | case1 c lanes d after goes ih =>
    have moved := along_round c lanes
    rw [goes] at moved
    rw [settle, goes]
    exact moved.trans ih
  | case2 c lanes d after rests =>
    have moved := along_round c lanes
    rw [rests] at moved
    rw [settle, rests]
    exact moved

/-! Whole runs -/

theorem along_start (c : Client σ) (jobs : List (Job α)) :
    Along c.graphs (c.start jobs).1.graphs [] ((c.start jobs).2.flatMap Lane.callers) := by
  induction jobs generalizing c with
  | nil => exact .refl _ _
  | cons t rest ih =>
    have later := (ih (c.advance t).1).prepend (c.advance t).2.callers
    rw [List.append_nil] at later
    exact (along_advance c t).trans later

theorem along_abandonLoads {α : Type} (c : Client σ) (lane : Lane σ α) :
    Along c.graphs (c.abandonLoads lane).graphs lane.callers [] := by
  induction lane generalizing c with
  | ended | dropped => exact .refl _ _
  | held n request wait next =>
    cases wait with
    | reply pending => exact .refl _ _
    | load ticket pending => exact along_abandon ticket
    | share channel => exact along_leave channel
  | both order first second next iha ihb =>
    exact ((iha c).append second.callers).trans (ihb (c.abandonLoads first))

theorem along_drop (c : Client σ) (lane : Lane σ α) :
    Along c.graphs (c.drop lane).1.graphs lane.callers (c.drop lane).2.callers := by
  cases lane with
  | ended value => exact .refl _ _
  | dropped | held | both => exact along_abandonLoads c _

theorem along_dropMarked (c : Client σ) (marks : List Bool) (lanes : List (Lane σ α)) :
    Along c.graphs (c.dropMarked marks lanes).1.graphs (lanes.flatMap Lane.callers)
      ((c.dropMarked marks lanes).2.flatMap Lane.callers) := by
  induction lanes generalizing c marks with
  | nil => cases marks <;> exact .refl _ _
  | cons lane rest ih =>
    cases marks with
    | nil => exact .refl _ _
    | cons marked marks =>
      cases marked with
      | true => exact along_cons (along_drop c lane) (ih _ marks)
      | false => exact along_cons (.refl _ _) (ih c marks)

theorem along_rejoin (c : Client σ) (lane : Lane σ α) :
    Along c.graphs (c.rejoin lane).1.graphs lane.callers (c.rejoin lane).2.callers := by
  unfold rejoin
  split
  · next number channel next =>
    split
    · -- The waiter goes on as the same caller: it enters anew, and does not leave before.
      next gone =>
      exact along_ask (fun c answer => along_advance c (next answer)) c
        (along_findGraph_of c fun _ _ => along_retry gone)
    · exact .refl _ _
  · exact .refl _ _

theorem along_each_rejoin (c : Client σ) (lanes : List (Lane σ α)) :
    Along c.graphs (each rejoin c lanes).1.graphs (lanes.flatMap Lane.callers)
      ((each rejoin c lanes).2.flatMap Lane.callers) := by
  induction lanes generalizing c with
  | nil => exact .refl _ _
  | cons lane rest ih => exact along_cons (along_rejoin c lane) (ih _)

theorem along_run (c : Client σ) (t : Job α) : Along c.graphs (c.run t).1.graphs [] [] :=
  ((along_start c [t]).trans (along_settle _ _)).gone

theorem along_runAll (c : Client σ) (jobs : List (Job α)) (marks : List Bool)
    (forgetting : Bool) : Along c.graphs (c.runAll jobs marks forgetting).1.graphs [] [] := by
  have begun := (along_start c jobs).trans (along_dropMarked _ marks _)
  cases forgetting with
  | false => exact ((begun.trans (along_each_rejoin _ _)).trans (along_settle _ _)).gone
  | true =>
    have forgot := begun.trans (along_invalidate _)
    exact ((forgot.trans (along_each_rejoin (invalidate _) _)).trans (along_settle _ _)).gone

/-- What is done with a client from outside. -/
inductive Act (c : Client σ) : Client σ → Prop
  | run {α : Type} (t : Job α) : Act c (c.run t).1
  | runAll {α : Type} (jobs : List (Job α)) (marks : List Bool) (forgetting : Bool) :
    Act c (c.runAll jobs marks forgetting).1
  | invalidate : Act c c.invalidate
  | shutdown : Act c c.shutdown

theorem Act.along {c d : Client σ} (act : c.Act d) : Along c.graphs d.graphs [] [] := by
  cases act with
  | run t => exact along_run c t
  | runAll jobs marks forgetting => exact along_runAll c jobs marks forgetting
  | invalidate => exact along_invalidate []
  | shutdown => exact .refl _ _

theorem along_history {c d : Client σ} (history : ReflTransGen Act c d) :
    Along c.graphs d.graphs [] [] := by
  induction history with
  | refl => exact .refl _ _
  | tail _ act ih => exact ih.trans act.along

variable {config : Config} {executor : Executor σ} {behind : σ} {c d : Client σ}

/-- Whatever is done with a client, its cache is as after some moves of callers. -/
theorem run_of_history (history : ReflTransGen Act (create config executor behind) c) :
    ∃ moves s, Run .start moves s ∧ s.graphs = c.graphs := by
  obtain ⟨moves, s, run, same, -⟩ := along_history history .start [] rfl .start
  exact ⟨moves, s, run, same⟩

/-- A graph that a client knows some time after an invalidation was loaded since. -/
theorem loaded_of_knownGraph (before : ReflTransGen Act (create config executor behind) c)
    (after : ReflTransGen Act c.invalidate d) {graph : Graph} (known : d.knownGraph = some graph) :
    ∃ front back s, Run .start (front ++ .invalidate :: back) s ∧ s.graphs = d.graphs ∧
      Loaded back graph := by
  obtain ⟨front, r, first, same, seated⟩ := along_history before .start [] rfl .start
  obtain ⟨back, s, second, same, -⟩ :=
    along_history after { r with graphs := r.graphs.invalidate } [] (by rw [same]; rfl) seated
  have run := (first.step .invalidate).trans second
  rw [List.append_assoc, List.singleton_append] at run
  have cached : s.graphs.cached = some graph := by
    rw [same]
    exact known
  obtain ⟨i, ticket, since, later, began, never, last⟩ := run.kept cached
  exact ⟨front, back, s, run, same, i, ticket, _, began.after (by simp [never, last]), by simp⟩

end Client

end FluentQuery
