import FluentQuery.Proofs.GraphCache.SingleFlight

/-! What callers get, and that none waits in vain. A caller returns the graph that is kept, or the
outcome of a load that was in flight during its call. A waiter whose leader is dropped hears nothing
of it: its channel is closed, and it enters anew. -/
namespace FluentQuery.GraphCache

variable {s t u : Scene} {i j id : Nat} {ticket : Ticket} {moves later : List Move} {m : Move}
  {result : Except Text Graph}

/-! Channels that are settled -/

theorem Sound.run (sound : Sound u) (run : Run u later s) : Sound s := by
  induction run with
  | refl => exact sound
  | step run step ih => exact ih.step step

/-- A channel that has an outcome, or has lost its leader, stays as it is. -/
theorem Step.settled_stays (step : Step s m t) (sound : Sound s) {channel : Channel}
    (settled : s.graphs.channels[id]? = some channel) (stopped : channel ≠ .running) :
    t.graphs.channels[id]? = some channel := by
  have entered {graphs : GraphCache} {entry : Entry} (enters : s.graphs.enter = (graphs, entry)) :
      graphs.channels[id]? = some channel := by
    obtain ⟨_, -, rfl, -⟩ | ⟨_, -, -, -, rfl, -⟩ | ⟨-, -, rfl, -⟩ := enter_cases enters
    · exact settled
    · exact settled
    · rwa [List.getElem?_append_left (List.getElem?_eq_some_iff.1 settled).1]
  have ended {i : Nat} {ticket : Ticket} (leads : s.callers i = .leading ticket) (last : Channel) :
      (s.graphs.channels.set ticket.channel last)[id]? = some channel := by
    have running := isRunning_iff.1 (sound.slot i ticket leads).2
    have apart : ticket.channel ≠ id := by
      rintro rfl
      exact stopped (Option.some.inj (settled.symm.trans running))
    rwa [List.getElem?_set_ne apart]
  cases step with
  | call idle enters => exact entered enters
  | retry waits gone enters => exact entered enters
  | finish leads outcome => exact ended leads _
  | abandon leads => exact ended leads _
  | share | leave | invalidate => exact settled

/-- A load that is led goes on, or has left its outcome on its channel, or has lost its leader and
closed it. -/
theorem Run.fate (run : Run u later s) (sound : Sound u) (leads : u.callers i = .leading ticket) :
    s.callers i = .leading ticket ∨
      (∃ outcome, .finish i ticket outcome ∈ later ∧
        s.graphs.channels[ticket.channel]? = some (.resolved outcome)) ∨
      s.graphs.channels[ticket.channel]? = some .abandoned := by
  induction run with
  | refl => exact .inl leads
  | @step moves s t m run step ih =>
    have before := sound.run run
    obtain led | ⟨outcome, member, settled⟩ | closed := ih
    · have bound := (List.getElem?_eq_some_iff.1 (isRunning_iff.1 (before.slot i ticket led).2)).1
      obtain still | ⟨outcome, rfl⟩ | rfl := step.leading_cases led
      · exact .inl still
      · cases step
        exact .inr (.inl ⟨outcome, by simp, by simp [publish, bound]⟩)
      · cases step with
        | leave waits => cases waits.symm.trans led
        | abandon leads =>
          cases leads.symm.trans led
          exact .inr (.inr (by simp [GraphCache.abandon, bound]))
    · exact .inr (.inl ⟨outcome, List.mem_append_left _ member,
        step.settled_stays before settled (by simp)⟩)
    · exact .inr (.inr (step.settled_stays before closed (by simp)))

/-! Calls -/

/-- A caller has entered and not returned. -/
def Caller.IsOn : Caller → Prop
  | .waiting _ | .leading _ => True
  | .idle | .returned _ | .dropped => False

/-- Of a run to `s`, a moment of a call: the caller is about to enter, or has entered and not
returned. `later` are the moves that follow. -/
def During (s : Scene) (moves : List Move) (j : Nat) (u : Scene) (later : List Move) : Prop :=
  ∃ early, moves = early ++ later ∧ Run .start early u ∧ Run u later s ∧
    ((∃ entry rest, later = .call j entry :: rest) ∨ (u.callers j).IsOn)

theorem During.step (during : During s moves j u later) (step : Step s m t) :
    During t (moves ++ [m]) j u (later ++ [m]) := by
  obtain ⟨early, rfl, before, after, on⟩ := during
  refine ⟨early, by simp, before, after.step step, on.imp_left ?_⟩
  rintro ⟨entry, rest, rfl⟩
  exact ⟨entry, rest ++ [m], rfl⟩

/-- The result is what was kept, or the outcome of a load that was in flight, at one moment of the
call. -/
def Given (s : Scene) (moves : List Move) (j : Nat) (result : Except Text Graph) : Prop :=
  ∃ u later, During s moves j u later ∧
    ((∃ graph, u.graphs.cached = some graph ∧ result = .ok graph) ∨
      ∃ i ticket, u.callers i = .leading ticket ∧ .finish i ticket result ∈ later)

theorem Given.step (given : Given s moves j result) (step : Step s m t) :
    Given t (moves ++ [m]) j result := by
  obtain ⟨u, later, during, source⟩ := given
  refine ⟨u, _, during.step step, source.imp_right ?_⟩
  rintro ⟨i, ticket, leads, member⟩
  exact ⟨i, ticket, leads, List.mem_append_left _ member⟩

/-- A waiter waited before, or has just found the load in flight. -/
theorem Step.waiting_cases (step : Step s m t) (waits : t.callers j = .waiting id) :
    s.callers j = .waiting id ∨ s.graphs.isRunning id = true ∧ t.graphs = s.graphs := by
  have entered {graphs : GraphCache} {entry : Entry} (enters : s.graphs.enter = (graphs, entry))
      (waits : entry.caller = .waiting id) :
      s.graphs.isRunning id = true ∧ graphs = s.graphs := by
    obtain ⟨_, -, -, rfl⟩ | ⟨_, -, -, running, rfl, rfl⟩ | ⟨-, -, -, rfl⟩ := enter_cases enters
    · cases waits
    · cases waits
      exact ⟨running, rfl⟩
    · cases waits
  by_cases own : m.caller? = some j
  · cases step with
    | call idle enters | retry before gone enters =>
      cases own
      exact .inr (entered enters ((Function.update_self ..).symm.trans waits))
    | invalidate => cases own
    | share | finish | leave | abandon =>
      cases own
      cases (Function.update_self ..).symm.trans waits
  · exact .inl ((step.callers_of_ne own).symm.trans waits)

/-- A waiter has joined a load that was in flight. -/
theorem Run.joined (run : Run .start moves s) (waits : s.callers j = .waiting id) :
    ∃ u later i ticket, During s moves j u later ∧ u.callers i = .leading ticket ∧
      ticket.channel = id := by
  induction run with
  | refl => cases waits
  | @step moves s t m run step ih =>
    obtain already | ⟨running, same⟩ := step.waiting_cases waits
    · obtain ⟨u, later, i, ticket, during, leads, channel⟩ := ih already
      exact ⟨u, _, i, ticket, during.step step, leads, channel⟩
    · obtain ⟨i, ticket, leads, channel⟩ := (run.step step).sound.led id (same ▸ running)
      have on : (t.callers j).IsOn := by
        rw [waits]
        trivial
      exact ⟨t, [], i, ticket, ⟨_, by simp, run.step step, .refl, .inr on⟩, leads, channel⟩

/-- A caller had returned before, takes what is kept, gets the outcome on its channel, or ends its
own load. -/
theorem Step.returned_cases (step : Step s m t) (returned : t.callers j = .returned result) :
    s.callers j = .returned result ∨
      (∃ graph, s.graphs.cached = some graph ∧ result = .ok graph ∧
        ((∃ entry, m = .call j entry) ∨ (s.callers j).IsOn)) ∨
      (∃ channel, s.callers j = .waiting channel ∧ s.graphs.outcome? channel = some result) ∨
      ∃ ticket, s.callers j = .leading ticket ∧ m = .finish j ticket result := by
  have entered {graphs : GraphCache} {entry : Entry} (enters : s.graphs.enter = (graphs, entry))
      (returned : entry.caller = .returned result) :
      ∃ graph, s.graphs.cached = some graph ∧ result = .ok graph := by
    obtain ⟨graph, cached, -, rfl⟩ | ⟨_, -, -, -, -, rfl⟩ | ⟨-, -, -, rfl⟩ := enter_cases enters
    · cases returned
      exact ⟨graph, cached, rfl⟩
    · cases returned
    · cases returned
  by_cases own : m.caller? = some j
  · cases step with
    | call idle enters =>
      cases own
      obtain ⟨graph, cached, ok⟩ := entered enters ((Function.update_self ..).symm.trans returned)
      exact .inr (.inl ⟨graph, cached, ok, .inl ⟨_, rfl⟩⟩)
    | retry waits gone enters =>
      cases own
      obtain ⟨graph, cached, ok⟩ := entered enters ((Function.update_self ..).symm.trans returned)
      refine .inr (.inl ⟨graph, cached, ok, .inr ?_⟩)
      rw [waits]
      trivial
    | share waits there =>
      cases own
      cases (Function.update_self ..).symm.trans returned
      exact .inr (.inr (.inl ⟨_, waits, there⟩))
    | finish leads outcome =>
      cases own
      cases (Function.update_self ..).symm.trans returned
      exact .inr (.inr (.inr ⟨_, leads, rfl⟩))
    | invalidate => cases own
    | leave | abandon =>
      cases own
      cases (Function.update_self ..).symm.trans returned
  · exact .inl ((step.callers_of_ne own).symm.trans returned)

theorem Run.given (run : Run .start moves s) (returned : s.callers j = .returned result) :
    Given s moves j result := by
  induction run with
  | refl => cases returned
  | @step moves s t m run step ih =>
    have whole := (Run.refl (r := s)).step step
    obtain already | ⟨graph, cached, ok, on⟩ | ⟨channel, waits, there⟩ | ⟨ticket, leads, rfl⟩ :=
      step.returned_cases returned
    · exact (ih already).step step
    · refine ⟨s, [m], ⟨moves, rfl, run, whole, on.imp_left ?_⟩, .inl ⟨graph, cached, ok⟩⟩
      rintro ⟨entry, rfl⟩
      exact ⟨entry, [], rfl⟩
    · -- The load that the caller joined has left this outcome, whatever came in between.
      obtain ⟨u, later, i, ticket, during, leads, rfl⟩ := run.joined waits
      refine ⟨u, _, during.step step, .inr ⟨i, ticket, leads, List.mem_append_left _ ?_⟩⟩
      obtain ⟨early, -, before, after, -⟩ := during
      rw [outcome?_eq_some_iff] at there
      obtain led | ⟨outcome, member, settled⟩ | closed := after.fate before.sound leads
      · cases there.symm.trans (isRunning_iff.1 (run.sound.slot i ticket led).2)
      · cases there.symm.trans settled
        exact member
      · cases there.symm.trans closed
    · have on : (s.callers j).IsOn := by
        rw [leads]
        trivial
      exact ⟨s, _, ⟨moves, rfl, run, whole, .inr on⟩, .inr ⟨j, ticket, leads, by simp⟩⟩

/-! Waiters -/

/-- Dropping a caller moves nobody else and gives no load an outcome. -/
theorem Sound.silent_drop (sound : Sound s) (step : Step s (.drop i) t) :
    (∀ j, j ≠ i → t.callers j = s.callers j) ∧
      ∀ id, t.graphs.outcome? id = s.graphs.outcome? id := by
  refine ⟨fun j other => step.callers_of_ne fun same => other (Option.some.inj same).symm,
    fun id => ?_⟩
  cases step with
  | leave waits => rfl
  | @abandon _ ticket leads =>
    have running := isRunning_iff.1 (sound.slot i ticket leads).2
    refine Option.ext fun outcome => ?_
    rw [outcome?_eq_some_iff, outcome?_eq_some_iff, GraphCache.abandon]
    by_cases here : ticket.channel = id
    · subst here
      obtain ⟨bound, unresolved⟩ := List.getElem?_eq_some_iff.1 running
      simp [bound, unresolved]
    · rw [List.getElem?_set_ne here]

/-- After a move of its own, the caller has the graph that is kept, waits for a load whose leader is
there, or is the only leader. -/
def Settled (s : Scene) (j : Nat) (t : Scene) : Prop :=
  (∃ graph, s.graphs.cached = some graph ∧ t.callers j = .returned (.ok graph)) ∨
    (∃ i ticket, t.callers i = .leading ticket ∧ t.callers j = .waiting ticket.channel) ∨
    ∃ ticket, t.callers j = .leading ticket ∧ ∀ i other, t.callers i = .leading other → i = j

theorem Sound.settled_retry (sound : Sound s) {entry : Entry} (step : Step s (.retry j entry) t) :
    Settled s j t := by
  have after := sound.step step
  cases step with
  | @retry _ channel _ _ waits gone enters =>
    obtain ⟨graph, cached, rfl, rfl⟩ | ⟨id, -, -, running, rfl, rfl⟩ | ⟨-, -, -, rfl⟩ :=
      enter_cases enters
    · exact .inl ⟨graph, cached, Function.update_self ..⟩
    · obtain ⟨i, ticket, leads, rfl⟩ := after.led id running
      exact .inr (.inl ⟨i, ticket, leads, Function.update_self ..⟩)
    · exact .inr (.inr ⟨_, Function.update_self .., fun i other too =>
        after.alone i j other _ too (Function.update_self ..)⟩)

/-- A waiter on a closed channel can enter anew, and unless it is dropped that is all it can do. -/
theorem Sound.retries (sound : Sound s) (waits : s.callers j = .waiting id)
    (closed : s.graphs.isAbandoned id = true) :
    (∃ entry t, Step s (.retry j entry) t) ∧
      ∀ m t, Step s m t → m.caller? = some j → m = .drop j ∨
        (∃ entry, m = .retry j entry) ∧ Settled s j t := by
  refine ⟨⟨_, _, .retry waits closed rfl⟩, fun m t step own => ?_⟩
  cases step with
  | call idle enters =>
    cases own
    cases waits.symm.trans idle
  | retry before gone enters =>
    cases own
    exact .inr ⟨⟨_, rfl⟩, sound.settled_retry (.retry before gone enters)⟩
  | share before there =>
    cases own
    cases waits.symm.trans before
    unfold isAbandoned at closed
    unfold outcome? at there
    split at there
    · next resolved =>
      rw [resolved] at closed
      cases closed
    · cases there
  | finish leads outcome =>
    cases own
    cases waits.symm.trans leads
  | leave | abandon =>
    cases own
    exact .inl rfl
  | invalidate => cases own

/-- The move of a caller that has entered and is not dropped. -/
def Move.GoesOn : Move → Prop
  | .retry .. | .share .. | .finish .. => True
  | .call .. | .drop _ | .invalidate => False

/-- A waiter whose load has a leader may come to its return. -/
theorem Sound.returns_behind (sound : Sound s) (leads : s.callers i = .leading ticket)
    (waits : s.callers j = .waiting ticket.channel) (outcome : Except Text Graph) :
    ∃ later t, Run s later t ∧ (∀ m ∈ later, m.GoesOn) ∧ t.callers j = .returned outcome := by
  have ends := Run.refl.step (Step.finish leads outcome)
  have apart : j ≠ i := by
    rintro rfl
    cases waits.symm.trans leads
  have bound := (List.getElem?_eq_some_iff.1 (isRunning_iff.1 (sound.slot i ticket leads).2)).1
  have there : (s.graphs.publish ticket outcome).outcome? ticket.channel = some outcome :=
    outcome?_eq_some_iff.2 (by simp [publish, bound])
  have still : Function.update s.callers i (.returned outcome) j = .waiting ticket.channel := by
    rwa [Function.update_of_ne apart]
  exact ⟨_, _, ends.step (.share still there), by simp [Move.GoesOn], Function.update_self ..⟩

/-- Moves of those who have entered bring every waiter to its return. -/
theorem Sound.returns (sound : Sound s) (waits : s.callers j = .waiting id) :
    ∃ later t result, Run s later t ∧ (∀ m ∈ later, m.GoesOn) ∧
      t.callers j = .returned result := by
  obtain running | ⟨outcome, there⟩ | closed := channel_cases s.graphs id
  · obtain ⟨i, ticket, leads, rfl⟩ := sound.led id running
    obtain ⟨later, t, run, goes, returned⟩ := sound.returns_behind leads waits (.ok [])
    exact ⟨later, t, _, run, goes, returned⟩
  · exact ⟨_, _, outcome, Run.refl.step (.share waits there), by simp [Move.GoesOn],
      Function.update_self ..⟩
  · obtain ⟨⟨entry, t, step⟩, -⟩ := sound.retries waits closed
    have again := Run.refl.step step
    obtain ⟨graph, -, returned⟩ | ⟨i, ticket, leads, waits⟩ | ⟨ticket, leads, -⟩ :=
      sound.settled_retry step
    · exact ⟨_, t, _, again, by simp [Move.GoesOn], returned⟩
    · obtain ⟨later, u, run, goes, returned⟩ :=
        (sound.step step).returns_behind leads waits (.ok [])
      refine ⟨_, u, _, again.trans run, fun m member => ?_, returned⟩
      obtain first | last := List.mem_append.1 member
      · obtain rfl := List.mem_singleton.1 first
        trivial
      · exact goes m last
    · exact ⟨_, _, .ok [], again.step (.finish leads _), by simp [Move.GoesOn],
        Function.update_self ..⟩

/-- Every caller that has returned was given the graph that was kept, or the outcome of one load in
flight, at a moment of its call. Who is dropped moves nobody else and gives no load an outcome. The
load of every waiter has a leader, or has its outcome, which the waiter can take, or is closed; then
all that the waiter can do is to enter anew, where it takes what is kept, joins a load that has a
leader, or becomes the only leader. So each waiter can still come to its return. -/
theorem callers_served (run : Run .start moves s) :
    (∀ j result, s.callers j = .returned result → ∃ u later, During s moves j u later ∧
      ((∃ graph, u.graphs.cached = some graph ∧ result = .ok graph) ∨
        ∃ i ticket, u.callers i = .leading ticket ∧ .finish i ticket result ∈ later)) ∧
    (∀ i t, Step s (.drop i) t → (∀ j, j ≠ i → t.callers j = s.callers j) ∧
      ∀ id, t.graphs.outcome? id = s.graphs.outcome? id) ∧
    ∀ j id, s.callers j = .waiting id →
      ((∃ i ticket, s.callers i = .leading ticket ∧ ticket.channel = id) ∨
        (∃ outcome t, s.graphs.outcome? id = some outcome ∧ Step s (.share j id outcome) t) ∨
        s.graphs.isAbandoned id = true ∧ (∃ entry t, Step s (.retry j entry) t) ∧
          ∀ m t, Step s m t → m.caller? = some j → m = .drop j ∨
            (∃ entry, m = .retry j entry) ∧ Settled s j t) ∧
      ∃ later t result, Run s later t ∧ (∀ m ∈ later, m.GoesOn) ∧
        t.callers j = .returned result := by
  refine ⟨fun j result => run.given, fun i t => run.sound.silent_drop, fun j id waits => ?_⟩
  refine ⟨?_, run.sound.returns waits⟩
  obtain running | ⟨outcome, there⟩ | closed := channel_cases s.graphs id
  · exact .inl (run.sound.led id running)
  · exact .inr (.inl ⟨outcome, _, there, .share waits there⟩)
  · exact .inr (.inr ⟨closed, run.sound.retries waits closed⟩)

/-- A leader is dropped; of its two waiters one leads a second load, and the other shares its
failure. -/
def orphaned : List Move :=
  [.call 0 (.lead ⟨0, 0⟩), .call 1 (.wait 0), .call 2 (.wait 0), .drop 0, .retry 1 (.lead ⟨1, 0⟩),
    .retry 2 (.wait 1), .finish 1 ⟨1, 0⟩ (.error "lost"), .share 2 1 (.error "lost")]

theorem orphaned_served :
    ∃ s, Run .start orphaned s ∧ s.callers 2 = .returned (.error "lost") ∧
      ∃ u later, During s orphaned 2 u later ∧
        ∃ i ticket, u.callers i = .leading ticket ∧ .finish i ticket (.error "lost") ∈ later := by
  have led := Run.refl.step (.call rfl rfl : Step .start (.call 0 (.lead ⟨0, 0⟩)) _)
  have first := led.step (.call rfl rfl : Step _ (.call 1 (.wait 0)) _)
  have second := first.step (.call rfl rfl : Step _ (.call 2 (.wait 0)) _)
  have dropped := second.step (.abandon rfl : Step _ (.drop 0) _)
  have again := dropped.step (.retry rfl rfl rfl : Step _ (.retry 1 (.lead ⟨1, 0⟩)) _)
  have joined := again.step (.retry rfl rfl rfl : Step _ (.retry 2 (.wait 1)) _)
  have failed := joined.step (.finish rfl (.error "lost") : Step _ (.finish 1 ⟨1, 0⟩ _) _)
  have run := failed.step (.share rfl rfl : Step _ (.share 2 1 (.error "lost")) _)
  obtain ⟨given, -⟩ := callers_served run
  refine ⟨_, run, rfl, ?_⟩
  obtain ⟨u, later, during, ⟨graph, -, failed⟩ | loaded⟩ := given 2 (.error "lost") rfl
  · cases failed
  · exact ⟨u, later, during, loaded⟩

end FluentQuery.GraphCache
