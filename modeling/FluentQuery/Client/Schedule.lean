import FluentQuery.Client.Lane

/-! Jobs side by side on one client. A turn lets every lane go on with the answers that are there;
when there are none, time passes. Every turn that moves a lane brings it further, so running all of
them ends: `Lane.oneLater_wf`. -/
namespace FluentQuery

namespace Lane

variable {σ α : Type}

def value? : Lane σ α → Option α
  | .ended value => some value
  | _ => none

/-- When the replies arrive that the lane waits for. -/
def dues {α : Type} : Lane σ α → List Nat
  | .held _ _ (.reply p) _ => [p.due]
  | .held _ _ (.load _ p) _ => [p.due]
  | .both _ first second _ => first.dues ++ second.dues
  | _ => []

/-- One lane of the list has gone on, and the others stand where they stood. -/
def OneLater (after before : List (Lane σ α)) : Prop :=
  ∃ front back : List (Lane σ α), ∃ a b, Later a b ∧ before = front ++ b :: back ∧
    after = front ++ a :: back

theorem acc_cons {lane : Lane σ α} (hl : Acc Later lane) {rest : List (Lane σ α)}
    (hr : Acc OneLater rest) : Acc OneLater (lane :: rest) := by
  induction hl generalizing rest with
  | intro lane _ ihl =>
    induction hr with
    | intro rest hr ihr =>
      refine .intro _ ?_
      rintro after ⟨front, back, a, b, hab, hb, rfl⟩
      cases front with
      | nil =>
        cases hb
        exact ihl a hab (.intro _ hr)
      | cons first front =>
        cases hb
        exact ihr _ ⟨front, back, a, b, hab, rfl, rfl⟩

theorem oneLater_wf : WellFounded (OneLater (σ := σ) (α := α)) := by
  refine ⟨fun lanes => ?_⟩
  induction lanes with
  | nil =>
    refine .intro _ ?_
    rintro after ⟨front, back, a, b, -, hb, -⟩
    cases front <;> cases hb
  | cons lane rest ih => exact acc_cons (later_wf.apply lane) ih

theorem OneLater.cons (lane : Lane σ α) {after before : List (Lane σ α)}
    (h : OneLater after before) : OneLater (lane :: after) (lane :: before) := by
  obtain ⟨front, back, a, b, hab, rfl, rfl⟩ := h
  exact ⟨lane :: front, back, a, b, hab, rfl, rfl⟩

open Relation (TransGen)

theorem transGen_cons (lane : Lane σ α) {after before : List (Lane σ α)}
    (h : TransGen OneLater after before) : TransGen OneLater (lane :: after) (lane :: before) := by
  induction h with
  | single h => exact .single (h.cons lane)
  | tail _ h ih => exact ih.tail (h.cons lane)

theorem transGen_head {after before : Lane σ α} (rest : List (Lane σ α))
    (h : TransGen Later after before) : TransGen OneLater (after :: rest) (before :: rest) := by
  induction h with
  | single h => exact .single ⟨[], rest, _, _, h, rfl, rfl⟩
  | tail _ h ih => exact ih.tail ⟨[], rest, _, _, h, rfl, rfl⟩

end Lane

/-- The lanes of jobs that run side by side. -/
structure Lanes (σ α : Type) where
  toList : List (Lane σ α)

instance {σ α : Type} : WellFoundedRelation (Lanes σ α) where
  rel := InvImage (Relation.TransGen Lane.OneLater) Lanes.toList
  wf := InvImage.wf _ Lane.oneLater_wf.transGen

namespace Client

variable {σ α : Type}

/-- Whether a request can come any further by now. -/
def isReady (c : Client σ) {r : Request} : Wait σ r → Bool
  | .reply p => p.due ≤ c.clock
  | .load _ p => p.due ≤ c.clock
  | .share channel => (c.graphs.outcome? channel).isSome

/-- The numbers of the waits that can go on, each with its place among them: a path through the
lane, on which a chain whose jobs go on as they waited counts by its longest wait. -/
def ready {α : Type} (c : Client σ) : Lane σ α → List (List Nat × Nat)
  | .held number _ wait _ => if c.isReady wait then [([], number)] else []
  | .both order first second _ =>
    let front := c.ready first
    let back := c.ready second
    match order with
    | .listed => front.map (fun (place, n) => (0 :: place, n)) ++
        back.map fun (place, n) => (1 :: place, n)
    | .waited =>
      let longest := (front.map Prod.snd).min?.getD 0
      front.map (fun (place, n) => (longest :: place, n)) ++ back
  | _ => []

/-- The numbers of the waits that can go on, in their order. -/
def agenda (c : Client σ) (lane : Lane σ α) : List Nat :=
  ((c.ready lane).mergeSort fun a b => decide (¬ b.1 < a.1)).map Prod.snd

/-- Lets some waits of a lane go on, one after the other, and says whether any did. -/
def wakeAll (c : Client σ) (lane : Lane σ α) : List Nat → Client σ × Lane σ α × Bool
  | [] => (c, lane, false)
  | number :: rest =>
    match c.wake? number lane with
    | some (c, lane) =>
      let (c, lane, _) := c.wakeAll lane rest
      (c, lane, true)
    | none => c.wakeAll lane rest

/-- Lets the lanes go on, in order, each with the answers that are there when its turn comes, and
says whether any moved. -/
def turn (c : Client σ) : List (Lane σ α) → Client σ × List (Lane σ α) × Bool
  | [] => (c, [], false)
  | lane :: rest =>
    let (c, lane, moved) := c.wakeAll lane (c.agenda lane)
    let (c, rest, others) := c.turn rest
    (c, lane :: rest, moved || others)

/-- Lets time pass until the first answer is there. -/
def sleep (c : Client σ) (lanes : List (Lane σ α)) : Client σ :=
  match (lanes.flatMap Lane.dues).min? with
  | some due => { c with clock := max c.clock due }
  | none => c

/-- One turn; if no lane can go on, one after some time. -/
def round (c : Client σ) (lanes : List (Lane σ α)) : Client σ × List (Lane σ α) × Bool :=
  match c.turn lanes with
  | (c, lanes, true) => (c, lanes, true)
  | (c, lanes, false) => (c.sleep lanes).turn lanes

open Relation (TransGen)

theorem wakeAll_later (c : Client σ) (lane : Lane σ α) (numbers : List Nat) :
    (c.wakeAll lane numbers).2.2 = true ∧ TransGen Lane.Later (c.wakeAll lane numbers).2.1 lane ∨
      (c.wakeAll lane numbers).2.2 = false ∧ (c.wakeAll lane numbers).2.1 = lane := by
  induction numbers generalizing c lane with
  | nil => exact .inr ⟨rfl, rfl⟩
  | cons number rest ih =>
    rw [wakeAll]
    split
    · next d woken h =>
      have first := Lane.later_of_wake? h
      refine .inl ⟨rfl, ?_⟩
      obtain ⟨-, ih⟩ | ⟨-, ih⟩ := ih d woken
      · exact ih.tail first
      · simpa only [ih] using TransGen.single first
    · exact ih c lane

theorem turn_later (c : Client σ) (lanes : List (Lane σ α)) :
    (c.turn lanes).2.2 = true ∧ TransGen Lane.OneLater (c.turn lanes).2.1 lanes ∨
      (c.turn lanes).2.2 = false ∧ (c.turn lanes).2.1 = lanes := by
  induction lanes generalizing c with
  | nil => exact .inr ⟨rfl, rfl⟩
  | cons lane rest ih =>
    rw [turn]
    generalize hw : c.wakeAll lane (c.agenda lane) = woken
    obtain ⟨d, after, moved⟩ := woken
    have hl := c.wakeAll_later lane (c.agenda lane)
    rw [hw] at hl
    obtain ⟨rfl, hl⟩ | ⟨rfl, rfl⟩ := hl
    · refine .inl ⟨by simp, ?_⟩
      obtain ⟨-, ih⟩ | ⟨-, ih⟩ := ih d
      · exact (Lane.transGen_cons after ih).trans (Lane.transGen_head rest hl)
      · simpa only [ih] using Lane.transGen_head rest hl
    · obtain ⟨hm, ih⟩ | ⟨hm, ih⟩ := ih d
      · exact .inl ⟨by simpa using hm, Lane.transGen_cons _ ih⟩
      · exact .inr ⟨by simpa using hm, by simp only [ih]⟩

theorem round_later {c d : Client σ} {lanes after : List (Lane σ α)}
    (h : c.round lanes = (d, after, true)) : TransGen Lane.OneLater after lanes := by
  unfold round at h
  obtain ⟨hm, hb⟩ | ⟨hm, hb⟩ := c.turn_later lanes
  · split at h
    · next e => cases h; rw [e] at hb; exact hb
    · next e => rw [e] at hm; cases hm
  · split at h
    · next e => rw [e] at hm; cases hm
    · next e =>
      rw [e] at hb
      subst hb
      obtain ⟨-, hb⟩ | ⟨hm, -⟩ := Client.turn_later _ _
      · rw [h] at hb; exact hb
      · rw [h] at hm; cases hm

/-- Goes on until no lane can. -/
def settle (c : Client σ) (lanes : List (Lane σ α)) : Client σ × List (Lane σ α) :=
  match _h : c.round lanes with
  | (c, lanes, true) => c.settle lanes
  | (c, lanes, false) => (c, lanes)
termination_by Lanes.mk lanes
decreasing_by exact round_later _h

/-! Whole runs -/

/-- Does something to every lane, in order. -/
def each (f : Client σ → Lane σ α → Client σ × Lane σ α) (c : Client σ) :
    List (Lane σ α) → Client σ × List (Lane σ α)
  | [] => (c, [])
  | lane :: rest =>
    let (c, lane) := f c lane
    let (c, rest) := each f c rest
    (c, lane :: rest)

/-- Starts jobs in order; each runs until it has to wait. -/
def start (c : Client σ) : List (Job α) → Client σ × List (Lane σ α)
  | [] => (c, [])
  | t :: rest =>
    let (c, lane) := c.advance t
    let (c, rest) := c.start rest
    (c, lane :: rest)

/-- Gives up the loads that a lane leads. -/
def abandonLoads {α : Type} (c : Client σ) : Lane σ α → Client σ
  | .held _ _ (.load ticket _) _ => { c with graphs := c.graphs.abandon ticket }
  | .both _ first second _ => (c.abandonLoads first).abandonLoads second
  | _ => c

/-- Gives up a lane that has not ended. -/
def drop (c : Client σ) : Lane σ α → Client σ × Lane σ α
  | .ended value => (c, .ended value)
  | lane => (c.abandonLoads lane, .dropped)

/-- Gives up the lanes that are marked. -/
def dropMarked (c : Client σ) : List Bool → List (Lane σ α) → Client σ × List (Lane σ α)
  | marked :: marks, lane :: rest =>
    let (c, lane) := if marked then c.drop lane else (c, lane)
    let (c, rest) := c.dropMarked marks rest
    (c, lane :: rest)
  | _, lanes => (c, lanes)

/-- A lane that waits on an abandoned load looks for the graph anew. -/
def rejoin (c : Client σ) : Lane σ α → Client σ × Lane σ α
  | .held number .graph (.share channel) next =>
    if c.graphs.isAbandoned channel then c.advance (.ask .graph next)
    else (c, .held number .graph (.share channel) next)
  | lane => (c, lane)

/-- Forgets the foreign keys. -/
def invalidate (c : Client σ) : Client σ :=
  { c with graphs := c.graphs.invalidate }.report .graphCleared

def shutdown (c : Client σ) : Client σ :=
  let c := c.report .closing
  { c with behind := c.executor.close c.behind }

/-- The foreign keys as far as they are known. -/
def knownGraph (c : Client σ) : Option Graph :=
  c.graphs.cached

/-- Runs one job. -/
def run (c : Client σ) (t : Job α) : Client σ × Option α :=
  let (c, lanes) := c.start [t]
  let (c, lanes) := c.settle lanes
  (c, lanes.head?.bind Lane.value?)

/-- Runs jobs side by side: all of them start, then the marked ones are given up, then perhaps the
foreign keys are forgotten, and the others run to their ends. -/
def runAll (c : Client σ) (jobs : List (Job α)) (marks : List Bool) (forgetting : Bool) :
    Client σ × List (Option α) :=
  let (c, lanes) := c.start jobs
  let (c, lanes) := c.dropMarked marks lanes
  let c := if forgetting then c.invalidate else c
  let (c, lanes) := c.each rejoin lanes
  let (c, lanes) := c.settle lanes
  (c, lanes.map Lane.value?)

end Client

end FluentQuery
