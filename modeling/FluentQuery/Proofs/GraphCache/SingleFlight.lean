import FluentQuery.Proofs.GraphCache.Callers

/-! At most one load is in flight. While its leader lives, the load is the one that later callers
join; the next load begins only after an invalidation, a failure, or the loss of that leader. -/
namespace FluentQuery.GraphCache

variable {s t : Scene} {i j : Nat} {ticket other : Ticket} {moves : List Move} {m : Move}

/-- Where the leaders and the loads in flight are, whatever has happened so far. -/
structure Sound (s : Scene) : Prop where
  slot : ∀ i t, s.callers i = .leading t →
    s.graphs.flight = some t.channel ∧ s.graphs.isRunning t.channel = true
  alone : ∀ i j t u, s.callers i = .leading t → s.callers j = .leading u → i = j
  led : ∀ id, s.graphs.isRunning id = true → ∃ i t, s.callers i = .leading t ∧ t.channel = id

namespace Sound

theorem start : Sound .start := by
  refine ⟨fun i t leads => ?_, fun i j t u first => ?_, fun id running => ?_⟩
  · cases leads
  · cases first
  · cases running

/-- A caller that leads no load moves to where it leads none. -/
theorem aside (sound : Sound s) {caller : Caller} (before : ∀ t, s.callers i ≠ .leading t)
    (after : ∀ t, caller ≠ .leading t) :
    Sound ⟨s.graphs, Function.update s.callers i caller⟩ := by
  have same (j : Nat) (t : Ticket) :
      Function.update s.callers i caller j = .leading t ↔ s.callers j = .leading t := by
    by_cases here : j = i
    · subst here
      simp [before, after]
    · rw [Function.update_of_ne here]
  refine ⟨fun j t leads => ?_, fun j k t u first second => ?_, fun id running => ?_⟩
  · exact sound.slot j t ((same j t).1 leads)
  · exact sound.alone j k t u ((same j t).1 first) ((same k u).1 second)
  · obtain ⟨j, t, leads, channel⟩ := sound.led id running
    exact ⟨j, t, (same j t).2 leads, channel⟩

/-- A caller that finds no load in flight begins one. -/
theorem lead (sound : Sound s) (free : ∀ id, s.graphs.flight = some id →
    s.graphs.isRunning id = false) :
    Sound ⟨{ s.graphs with
        flight := some s.graphs.channels.length, channels := s.graphs.channels ++ [.running] },
      Function.update s.callers i
        (.leading ⟨s.graphs.channels.length, s.graphs.generation⟩)⟩ := by
  have idle (j : Nat) (t : Ticket) : s.callers j ≠ .leading t := fun leads => by
    obtain ⟨flight, running⟩ := sound.slot j t leads
    rw [free _ flight] at running
    cases running
  have only (j : Nat) (t : Ticket) (leads : Function.update s.callers i
      (.leading ⟨s.graphs.channels.length, s.graphs.generation⟩) j = .leading t) :
      j = i ∧ t = ⟨s.graphs.channels.length, s.graphs.generation⟩ := by
    by_cases here : j = i
    · subst here
      rw [Function.update_self] at leads
      exact ⟨rfl, (Caller.leading.inj leads).symm⟩
    · rw [Function.update_of_ne here] at leads
      exact absurd leads (idle j t)
  refine ⟨fun j t leads => ?_, fun j k t u first second => ?_, fun id running => ?_⟩
  · obtain ⟨-, rfl⟩ := only j t leads
    exact ⟨rfl, isRunning_iff.2 (by simp)⟩
  · rw [(only j t first).1, (only k u second).1]
  · refine ⟨i, _, Function.update_self .., ?_⟩
    rw [isRunning_iff] at running
    obtain old | new := Nat.lt_or_ge id s.graphs.channels.length
    · rw [List.getElem?_append_left old, ← isRunning_iff] at running
      obtain ⟨j, t, leads, -⟩ := sound.led id running
      exact absurd leads (idle j t)
    · have bound := (List.getElem?_eq_some_iff.1 running).1
      rw [List.length_append, List.length_singleton] at bound
      exact Nat.le_antisymm new (Nat.lt_succ_iff.1 bound)

/-- The load of a leader ends, or the leader goes away. -/
theorem ends (sound : Sound s) (leads : s.callers i = .leading ticket) {graphs : GraphCache}
    {channel : Channel} (now : graphs.channels = s.graphs.channels.set ticket.channel channel)
    (stopped : channel ≠ .running) {caller : Caller} (after : ∀ t, caller ≠ .leading t) :
    Sound ⟨graphs, Function.update s.callers i caller⟩ := by
  have none (j : Nat) (t : Ticket) : Function.update s.callers i caller j ≠ .leading t := by
    by_cases here : j = i
    · subst here
      rw [Function.update_self]
      exact after t
    · rw [Function.update_of_ne here]
      exact fun too => here (sound.alone j i t ticket too leads)
  refine ⟨fun j t leads => absurd leads (none j t), fun j k t u first => absurd first (none j t),
    fun id running => ?_⟩
  rw [isRunning_iff, now, List.getElem?_set] at running
  by_cases here : ticket.channel = id
  · simp [here] at running
    exact absurd running.2 stopped
  · rw [if_neg here, ← isRunning_iff] at running
    obtain ⟨j, t, too, rfl⟩ := sound.led id running
    obtain rfl := sound.alone j i t ticket too leads
    rw [leads] at too
    exact absurd (congrArg Ticket.channel (Caller.leading.inj too)) here

theorem enter (sound : Sound s) (before : ∀ t, s.callers i ≠ .leading t) {graphs : GraphCache}
    {entry : Entry} (enters : s.graphs.enter = (graphs, entry)) :
    Sound ⟨graphs, Function.update s.callers i entry.caller⟩ := by
  obtain ⟨graph, -, rfl, rfl⟩ | ⟨id, -, -, -, rfl, rfl⟩ | ⟨-, free, rfl, rfl⟩ := enter_cases enters
  · exact sound.aside before (by simp [Entry.caller])
  · exact sound.aside before (by simp [Entry.caller])
  · exact sound.lead free

theorem step (sound : Sound s) (step : Step s m t) : Sound t := by
  cases step with
  | call idle enters => exact sound.enter (by simp [idle]) enters
  | retry waits gone enters => exact sound.enter (by simp [waits]) enters
  | share waits there => exact sound.aside (by simp [waits]) (by simp)
  | finish leads outcome => exact sound.ends leads rfl (by simp) (by simp)
  | leave waits => exact sound.aside (by simp [waits]) (by simp)
  | abandon leads => exact sound.ends leads rfl (by simp) (by simp)
  | invalidate => exact ⟨sound.slot, sound.alone, sound.led⟩

end Sound

theorem Run.sound (run : Run .start moves s) : Sound s := by
  induction run with
  | refl => exact .start
  | step run step ih => exact ih.step step

/-- What has become of the last load that began. -/
theorem Run.last_load (run : Run .start moves s) {since : List Move}
    (began : Began moves i ticket since) (last : ∀ m ∈ since, m.begins? = none) :
    .invalidate ∈ since ∨ (∃ detail, .finish i ticket (.error detail) ∈ since) ∨
      .drop i ∈ since ∨ s.callers i = .leading ticket ∧
        ticket.generation = s.graphs.generation ∨ s.graphs.cached ≠ none := by
  induction run generalizing since with
  | refl =>
    obtain ⟨front, m, whole, -⟩ := began
    simp at whole
  | @step moves s t m run step ih =>
    obtain ⟨rfl, begins⟩ | ⟨earlier, rfl, before⟩ := began.snoc_cases
    · obtain ⟨-, -, generation, leads⟩ := step.begins begins
      have other : m ≠ .invalidate := by
        rintro rfl
        cases begins
      rw [← step.generation_of_ne other] at generation
      exact .inr (.inr (.inr (.inl ⟨leads, generation⟩)))
    · -- A load of the present generation is led until it fails, is dropped or is kept; what is kept
      -- stays until it is forgotten.
      have carried := ih before fun m member => last m (List.mem_append_left _ member)
      by_cases forgets : m = .invalidate
      · exact .inl (by simp [forgets])
      obtain forgot | ⟨detail, failed⟩ | dropped | ⟨leads, generation⟩ | kept := carried
      · exact .inl (List.mem_append_left _ forgot)
      · exact .inr (.inl ⟨detail, List.mem_append_left _ failed⟩)
      · exact .inr (.inr (.inl (List.mem_append_left _ dropped)))
      · obtain still | ⟨outcome, rfl⟩ | rfl := step.leading_cases leads
        · rw [← step.generation_of_ne forgets] at generation
          exact .inr (.inr (.inr (.inl ⟨still, generation⟩)))
        · cases outcome with
          | error detail => exact .inr (.inl ⟨detail, by simp⟩)
          | ok graph =>
            cases step
            refine .inr (.inr (.inr (.inr ?_)))
            simp [publish, generation]
        · exact .inr (.inr (.inl (by simp)))
      · refine .inr (.inr (.inr (.inr ?_)))
        obtain same | ⟨rfl, -⟩ | ⟨_, _, graph, -, -, -, cached⟩ := step.cached_cases
        · rwa [same]
        · exact absurd rfl forgets
        · simp [cached]

/-- At most one caller leads a load, and while it does the load is the one in flight; and between
the beginnings of two loads in a row the graph was forgotten, the first load failed, or its leader
was dropped. -/
theorem single_flight (run : Run .start moves s) :
    (∀ i j t u, s.callers i = .leading t → s.callers j = .leading u → i = j ∧ t = u) ∧
    (∀ i t, s.callers i = .leading t →
      s.graphs.flight = some t.channel ∧ s.graphs.isRunning t.channel = true) ∧
    (∀ id, s.graphs.isRunning id = true → ∃ i t, s.callers i = .leading t ∧ t.channel = id) ∧
    ∀ front a between b back i t j u, moves = front ++ a :: between ++ b :: back →
      a.begins? = some (i, t) → b.begins? = some (j, u) → (∀ m ∈ between, m.begins? = none) →
      .invalidate ∈ between ∨ (∃ detail, .finish i t (.error detail) ∈ between) ∨
        .drop i ∈ between := by
  have sound := run.sound
  refine ⟨fun i j t u first second => ?_, sound.slot, sound.led, ?_⟩
  · obtain rfl := sound.alone i j t u first second
    exact ⟨rfl, Caller.leading.inj (first.symm.trans second)⟩
  · rintro front a between b back i t j u rfl first second last
    obtain ⟨r, before, after⟩ := run.split
    obtain ⟨q, step, -⟩ := after.head
    obtain ⟨cached, free, -⟩ := step.begins second
    obtain forgot | failed | dropped | ⟨leads, -⟩ | kept :=
      before.last_load ⟨front, a, rfl, first⟩ last
    · exact .inl forgot
    · exact .inr (.inl failed)
    · exact .inr (.inr dropped)
    · obtain ⟨flight, running⟩ := before.sound.slot i t leads
      rw [free _ flight] at running
      cases running
    · exact absurd cached kept

/-- A waiter begins a second load when the leader of the first is dropped. -/
def handOver : List Move :=
  [.call 0 (.lead ⟨0, 0⟩), .call 1 (.wait 0), .drop 0, .retry 1 (.lead ⟨1, 0⟩)]

theorem handOver_in_turn :
    ∃ s, Run .start handOver s ∧ s.callers 1 = .leading ⟨1, 0⟩ ∧ s.graphs.flight = some 1 ∧
      (.invalidate ∈ [Move.call 1 (.wait 0), .drop 0] ∨
        (∃ detail, .finish 0 ⟨0, 0⟩ (.error detail) ∈ [Move.call 1 (.wait 0), .drop 0]) ∨
        .drop 0 ∈ [Move.call 1 (.wait 0), .drop 0]) := by
  have led := Run.refl.step (.call rfl rfl : Step .start (.call 0 (.lead ⟨0, 0⟩)) _)
  have joined := led.step (.call rfl rfl : Step _ (.call 1 (.wait 0)) _)
  have dropped := joined.step (.abandon rfl : Step _ (.drop 0) _)
  have run := dropped.step (.retry rfl rfl rfl : Step _ (.retry 1 (.lead ⟨1, 0⟩)) _)
  obtain ⟨-, slot, -, turns⟩ := single_flight run
  refine ⟨_, run, rfl, (slot 1 ⟨1, 0⟩ rfl).1, ?_⟩
  exact turns [] _ [.call 1 (.wait 0), .drop 0] _ [] 0 ⟨0, 0⟩ 1 ⟨1, 0⟩ rfl rfl rfl
    (by simp [Move.begins?])

end FluentQuery.GraphCache
