import FluentQuery.Client.Schedule
import FluentQuery.Proofs.Job

/-! Runs of a client whose answers depend on the requests alone. Delays and the order in which
jobs side by side go on then change nothing: `Client.run_eq_value` says that every run ends, and
with the value of the job. The invariant of a run is `Lane.Leads`: what a lane still waits for
comes as its backend answers, and then it ends with the value. -/
namespace FluentQuery

variable {σ α β γ : Type}

/-- However long it takes and whatever the states are, the reply ends with the answer. -/
def Reply.Gives (answer : Except Error α) : Reply σ α → Prop
  | .answered _ given => given = answer
  | .waiting _ _ next => ∀ s, (next s).Gives answer

namespace Client

/-- Under its time limit, the client gives a request the answer of the backend. The foreign keys
have to be known already. -/
def Gives (c : Client σ) (b : Backend) : Request → Prop
  | .query _ s =>
    ∀ behind, ((c.executor.query s behind).1.within c.config.timeout).Gives (b.query s)
  | .execute _ s =>
    ∀ behind, ((c.executor.execute s behind).1.within c.config.timeout).Gives (b.execute s)
  | .batch sql =>
    ∀ behind, ((c.executor.batch sql behind).1.within c.config.timeout).Gives (b.batch sql)
  | .graph => ∃ graph, c.graphs.cached = some graph ∧ b.graph = .ok graph

/-- The parts of a client on which its answers depend. -/
def Alike (d c : Client σ) : Prop :=
  d.executor = c.executor ∧ d.config = c.config ∧ d.graphs = c.graphs

theorem Alike.refl (c : Client σ) : c.Alike c := ⟨rfl, rfl, rfl⟩

theorem Alike.trans {c d e : Client σ} (first : e.Alike d) (second : d.Alike c) : e.Alike c :=
  ⟨first.1.trans second.1, first.2.1.trans second.2.1, first.2.2.trans second.2.2⟩

theorem Gives.alike {c d : Client σ} {b : Backend} {r : Request} (gives : c.Gives b r)
    (same : d.Alike c) : d.Gives b r := by
  obtain ⟨executor, config, graphs⟩ := same
  cases r <;> simpa only [Gives, executor, config, graphs] using gives

theorem announce_alike (c : Client σ) (kind : StatementKind) (parameters : Nat) (sql : Text) :
    (c.announce kind parameters sql).Alike c := by
  unfold announce
  split <;> exact .refl c

theorem receive_alike (c : Client σ) (r : Request) (events : List Event)
    (answer : Except Error r.Answer) : (c.receive r events answer).Alike c := by
  unfold receive
  split
  · unfold confirm; split <;> exact .refl c
  · unfold confirm; split <;> exact .refl c
  · exact .refl c

end Client

/-! Replies -/

/-- What has arrived is the answer, or what is under way will give it. -/
def Arrival.Gives (answer : Except Error α) : Arrival σ α → Prop
  | .full _ given => given = answer
  | .partly pending => ∀ s, (pending.next s).Gives answer

namespace Client

theorem follow_gives (c : Client σ) {reply : Reply σ β} {answer : Except Error β}
    (gives : reply.Gives answer) :
    (c.follow reply).1.Alike c ∧ (c.follow reply).2.Gives answer := by
  induction reply generalizing c with
  | answered events given => exact ⟨.refl c, gives⟩
  | waiting delay change next ih =>
    rw [follow]
    split
    · exact ih c.behind { c with behind := change c.behind } (gives c.behind)
    · exact ⟨.refl c, gives⟩

theorem resume?_gives {c d : Client σ} {pending : Pending σ β} {answer : Except Error β}
    {arrival : Arrival σ β} (gives : ∀ s, (pending.next s).Gives answer)
    (resumed : c.resume? pending = some (d, arrival)) : d.Alike c ∧ arrival.Gives answer := by
  unfold resume? at resumed
  split at resumed
  · have followed := follow_gives { c with behind := pending.change c.behind } (gives c.behind)
    rw [Option.some.inj resumed] at followed
    exact followed
  · cases resumed

/-- The answer of the backend has come, or a reply that will bring it is under way. -/
def Holds (b : Backend) {r : Request} : Progress σ r → Prop
  | .now answer => answer = b.answer r
  | .later wait => ∃ pending, wait = .reply pending ∧ ∀ s, (pending.next s).Gives (b.answer r)

theorem accept_holds (c : Client σ) {b : Backend} {r : Request} {arrival : Arrival σ r.Answer}
    (gives : arrival.Gives (b.answer r)) :
    (c.accept r arrival).1.Alike c ∧ Holds b (c.accept r arrival).2 := by
  cases arrival with
  | full events answer => exact ⟨receive_alike c r events answer, gives⟩
  | partly pending => exact ⟨.refl c, pending, rfl, gives⟩

theorem send_holds (c : Client σ) {b : Backend} {r : Request} (kind : StatementKind)
    (parameters : Nat) (sql : Text) {work : σ → Reply σ r.Answer × σ}
    (gives : ∀ behind, ((work behind).1.within c.config.timeout).Gives (b.answer r)) :
    let sent := (c.announce kind parameters sql).send work
    (sent.1.accept r sent.2).1.Alike c ∧ Holds b (sent.1.accept r sent.2).2 := by
  have announced := c.announce_alike kind parameters sql
  generalize c.announce kind parameters sql = d at announced
  have followed := follow_gives { d with behind := (work d.behind).2 } (gives d.behind)
  rw [← announced.2.1] at followed
  have accepted := (d.send work).1.accept_holds followed.2
  exact ⟨(accepted.1.trans followed.1).trans announced, accepted.2⟩

theorem begin_holds (c : Client σ) {b : Backend} {r : Request} (gives : c.Gives b r) :
    (c.begin r).1.Alike c ∧ Holds b (c.begin r).2 := by
  cases r with
  | query kind s => exact c.send_holds (r := .query kind s) _ _ _ gives
  | execute kind s => exact c.send_holds (r := .execute kind s) _ _ _ gives
  | batch sql => exact c.send_holds (r := .batch sql) _ _ _ gives
  | graph =>
    obtain ⟨graph, cached, known⟩ := gives
    have entered : c.graphs.enter = (c.graphs, .ready graph) := by
      simp only [GraphCache.enter, cached]
    simp only [begin, findGraph, entered]
    exact ⟨.refl c, known.symm⟩

end Client

/-! Lanes -/

/-- The lane waits only for replies that will give what the backend answers, and goes on to the
value with allowed requests. Of two lanes side by side at least one still waits. -/
def Lane.Leads {α : Type} (b : Backend) (allowed : Request → Prop) (value : α) : Lane σ α → Prop
  | .ended given => given = value
  | .dropped => False
  | .held _ request wait next =>
    Client.Holds b (.later wait) ∧ (next (b.answer request)).value b = value ∧
      (next (b.answer request)).Within allowed
  | .both _ first second next =>
    (∀ x y, first = .ended x → second ≠ .ended y) ∧
      ∃ x y, first.Leads b allowed x ∧ second.Leads b allowed y ∧ (next (x, y)).value b = value ∧
        (next (x, y)).Within allowed

namespace Client

variable {b : Backend} {allowed : Request → Prop}

theorem advance_leads {c : Client σ} (gives : ∀ r, allowed r → c.Gives b r) {t : Job α}
    (within : t.Within allowed) :
    (c.advance t).1.Alike c ∧ (c.advance t).2.Leads b allowed (t.value b) := by
  induction t generalizing c with
  | done value => exact ⟨.refl c, rfl⟩
  | note event next ih => exact ih (c := c.report event) gives within
  | ask request next ih =>
    have begun := c.begin_holds (gives request within.1)
    rw [advance]
    split
    · next d answer eq =>
      rw [eq] at begun
      obtain ⟨same, rfl⟩ := begun
      have rest := ih _ (fun r ok => (gives r ok).alike same) (within.2 (b.answer request))
      exact ⟨rest.1.trans same, rest.2⟩
    · next d wait eq =>
      rw [eq] at begun
      exact ⟨begun.1, begun.2, rfl, within.2 _⟩
  | both order first second next ihf ihs ih =>
    obtain ⟨sameF, leadsF⟩ := ihf gives within.1
    obtain ⟨sameS, leadsS⟩ := ihs (fun r ok => (gives r ok).alike sameF) within.2.1
    have same := sameS.trans sameF
    rw [advance_both]
    generalize (c.advance first).2 = one at leadsF
    generalize ((c.advance first).1.advance second).2 = two at leadsS
    unfold join
    split
    · next x y =>
      obtain rfl : x = first.value b := leadsF
      obtain rfl : y = second.value b := leadsS
      have rest := ih (first.value b, second.value b) (fun r ok => (gives r ok).alike same)
        (within.2.2 _)
      exact ⟨rest.1.trans same, rest.2⟩
    · next waits => exact ⟨same, waits, _, _, leadsF, leadsS, rfl, within.2.2 _⟩

theorem join_leads {c : Client σ} (gives : ∀ r, allowed r → c.Gives b r) (order : Order)
    {one : Lane σ β} {two : Lane σ γ} {next : β × γ → Job α} {x : β} {y : γ}
    (leadsF : one.Leads b allowed x) (leadsS : two.Leads b allowed y)
    (within : (next (x, y)).Within allowed) :
    (c.join order one two next).1.Alike c ∧
      (c.join order one two next).2.Leads b allowed ((next (x, y)).value b) := by
  unfold join
  split
  · obtain rfl := leadsF
    obtain rfl := leadsS
    exact advance_leads gives within
  · next waits => exact ⟨.refl c, waits, x, y, leadsF, leadsS, rfl, within⟩

theorem wake?_leads {c d : Client σ} (gives : ∀ r, allowed r → c.Gives b r) {number : Nat}
    {before after : Lane σ α} {value : α} (leads : before.Leads b allowed value)
    (woken : c.wake? number before = some (d, after)) :
    d.Alike c ∧ after.Leads b allowed value := by
  induction before generalizing c d with
  | ended | dropped => cases woken
  | held n request wait next =>
    obtain ⟨⟨pending, rfl, coming⟩, rfl, within⟩ := leads
    rw [wake?] at woken
    split at woken
    · obtain ⟨⟨e, progress⟩, collected, goes⟩ := Option.map_eq_some_iff.1 woken
      obtain ⟨⟨f, arrival⟩, resumed, accepted⟩ := Option.map_eq_some_iff.1 collected
      obtain ⟨sameF, arrived⟩ := resume?_gives coming resumed
      have holds := f.accept_holds arrived
      have accepted : f.accept request arrival = (e, progress) := accepted
      rw [accepted] at holds
      have same : e.Alike c := holds.1.trans sameF
      cases progress with
      | now answer =>
        obtain rfl : answer = b.answer request := holds.2
        have rest := advance_leads (fun r ok => (gives r ok).alike same) within
        have goes : e.advance (next (b.answer request)) = (d, after) := goes
        rw [goes] at rest
        exact ⟨rest.1.trans same, rest.2⟩
      | later wait =>
        cases goes
        exact ⟨same, holds.2, rfl, within⟩
    · cases woken
  | both order one two next ihf ihs =>
    obtain ⟨-, x, y, leadsF, leadsS, rfl, within⟩ := leads
    rw [wake?] at woken
    split at woken
    · next e lane first =>
      obtain ⟨same, leadsF⟩ := ihf gives leadsF first
      have joined := join_leads (fun r ok => (gives r ok).alike same) order leadsF
        leadsS within
      rw [Option.some.inj woken] at joined
      exact ⟨joined.1.trans same, joined.2⟩
    · split at woken
      · next e lane second =>
        obtain ⟨same, leadsS⟩ := ihs gives leadsS second
        have joined := join_leads (fun r ok => (gives r ok).alike same) order leadsF
          leadsS within
        rw [Option.some.inj woken] at joined
        exact ⟨joined.1.trans same, joined.2⟩
      · cases woken

theorem wakeAll_leads {c : Client σ} (gives : ∀ r, allowed r → c.Gives b r) {lane : Lane σ α}
    {value : α} (leads : lane.Leads b allowed value) (numbers : List Nat) :
    (c.wakeAll lane numbers).1.Alike c ∧ (c.wakeAll lane numbers).2.1.Leads b allowed value := by
  induction numbers generalizing c lane with
  | nil => exact ⟨.refl c, leads⟩
  | cons number rest ih =>
    rw [wakeAll]
    split
    · next d after woken =>
      obtain ⟨same, leads⟩ := wake?_leads gives leads woken
      have later := ih (fun r ok => (gives r ok).alike same) leads
      exact ⟨later.1.trans same, later.2⟩
    · exact ih gives leads

/-! Progress -/

/-- A wait that is ready can be woken by its number. -/
theorem isSome_wake? {c : Client σ} {lane : Lane σ α} {number : Nat}
    (member : number ∈ (c.ready lane).map Prod.snd) : (c.wake? number lane).isSome := by
  induction lane with
  | ended | dropped => cases member
  | held n request wait next =>
    rw [ready] at member
    split at member
    · next able =>
      obtain rfl : number = n := by simpa using member
      rw [wake?, if_pos rfl, Option.isSome_map]
      cases wait with
      | reply pending | load ticket pending =>
        have due : pending.due ≤ c.clock := by simpa [isReady] using able
        simp [collect?, resume?, due]
      | share channel => simpa [collect?, isReady] using able
    · cases member
  | both order one two next ihf ihs =>
    have either : number ∈ (c.ready one).map Prod.snd ∨ number ∈ (c.ready two).map Prod.snd := by
      cases order <;> simpa [ready, List.mem_append] using member
    rw [wake?]
    split
    · rfl
    · next none =>
      rcases either with front | back
      · simpa [none] using ihf front
      · obtain ⟨⟨d, lane⟩, found⟩ := Option.isSome_iff_exists.1 (ihs back)
        simp [found]

/-- A lane with a ready wait moves. -/
theorem wakeAll_moves {c : Client σ} {lane : Lane σ α} (ready : c.ready lane ≠ []) :
    (c.wakeAll lane (c.agenda lane)).2.2 = true := by
  have nonempty : c.agenda lane ≠ [] := by
    simpa [agenda, List.map_eq_nil_iff, ← List.length_eq_zero_iff, List.length_mergeSort]
      using ready
  obtain ⟨number, rest, eq⟩ := List.exists_cons_of_ne_nil nonempty
  have member : number ∈ (c.ready lane).map Prod.snd := by
    have : number ∈ c.agenda lane := by rw [eq]; exact List.mem_cons_self
    simpa [agenda, List.mem_mergeSort] using this
  obtain ⟨⟨d, after⟩, woken⟩ := Option.isSome_iff_exists.1 (isSome_wake? member)
  rw [eq, wakeAll, woken]

/-- Once the clock shows the due time of some wait of a lane, the lane is ready. -/
theorem ready_of_due {c : Client σ} {lane : Lane σ α} {due : Nat} (member : due ∈ lane.dues)
    (reached : due ≤ c.clock) : c.ready lane ≠ [] := by
  induction lane with
  | ended | dropped => cases member
  | held n request wait next =>
    cases wait with
    | reply pending | load ticket pending =>
      obtain rfl := List.mem_singleton.1 member
      simp [ready, isReady, reached]
    | share channel => cases member
  | both order one two next ihf ihs =>
    rcases List.mem_append.1 member with front | back
    · cases order <;> simp [ready, ihf front]
    · cases order <;> simp [ready, ihs back]

/-- A lane that has not ended waits for a reply. -/
theorem ended_or_due {lane : Lane σ α} {value : α} (leads : lane.Leads b allowed value) :
    lane = .ended value ∨ lane.dues ≠ [] := by
  induction lane with
  | ended given => exact .inl (congrArg Lane.ended leads)
  | dropped => exact leads.elim
  | held n request wait next =>
    obtain ⟨⟨pending, rfl, -⟩, -, -⟩ := leads
    exact .inr (List.cons_ne_nil _ _)
  | both order one two next ihf ihs =>
    obtain ⟨waits, x, y, leadsF, leadsS, -, -⟩ := leads
    refine .inr fun none => ?_
    obtain ⟨noneF, noneS⟩ := List.append_eq_nil_iff.1 none
    exact waits x y ((ihf leadsF).resolve_right (· noneF)) ((ihs leadsS).resolve_right (· noneS))

theorem turn_singleton (c : Client σ) (lane : Lane σ α) :
    c.turn [lane] = ((c.wakeAll lane (c.agenda lane)).1, [(c.wakeAll lane (c.agenda lane)).2.1],
      (c.wakeAll lane (c.agenda lane)).2.2) := by
  simp [turn]

/-- A round without a move leaves the lanes where they stood. -/
theorem round_idle {c d : Client σ} {lanes after : List (Lane σ α)}
    (stands : c.round lanes = (d, after, false)) : after = lanes := by
  have still : ∀ {e f : Client σ} {lanes rest : List (Lane σ α)},
      e.turn lanes = (f, rest, false) → rest = lanes := by
    intro e f lanes rest turned
    have := (e.turn_later lanes).resolve_left (by simp [turned])
    rw [turned] at this
    exact this.2
  unfold round at stands
  split at stands
  · cases stands
  · next e rest turned =>
    rw [still turned] at stands
    exact still stands

/-- A lane that does not move, even after some time, waits for no reply and is not ready. -/
theorem round_rests {c d : Client σ} {lane : Lane σ α} {lanes : List (Lane σ α)}
    (stands : c.round [lane] = (d, lanes, false)) : lane.dues = [] ∧ c.ready lane = [] := by
  unfold round at stands
  split at stands
  · cases stands
  · next e rest eq =>
    have idle := (c.turn_later [lane]).resolve_left (by simp [eq])
    constructor
    · refine Decidable.byContradiction fun due => ?_
      rw [eq] at idle
      obtain rfl : rest = [lane] := idle.2
      obtain ⟨first, least⟩ : ∃ first, ([lane].flatMap Lane.dues).min? = some first := by
        cases found : ([lane].flatMap Lane.dues).min? with
        | some first => exact ⟨first, rfl⟩
        | none => simp [List.min?_eq_none_iff, due] at found
      have member : first ∈ lane.dues := by
        simpa using List.min?_mem least
      have reached : first ≤ (e.sleep [lane]).clock := by
        simp only [sleep, least]
        exact Nat.le_max_right ..
      rw [turn_singleton, wakeAll_moves (ready_of_due member reached)] at stands
      cases stands
    · refine Decidable.byContradiction fun ready => ?_
      rw [turn_singleton, wakeAll_moves ready] at idle
      cases idle.1

/-- After some time, at the latest, a lane that has not ended moves. -/
theorem round_moves {c d : Client σ} {lane : Lane σ α} {value : α} {lanes : List (Lane σ α)}
    (leads : lane.Leads b allowed value) (stands : c.round [lane] = (d, lanes, false)) :
    lane = .ended value :=
  (ended_or_due leads).resolve_right fun due => due (round_rests stands).1

/-- A round keeps what a lane leads to. -/
theorem round_leads {c : Client σ} (gives : ∀ r, allowed r → c.Gives b r) {lane : Lane σ α}
    {value : α} (leads : lane.Leads b allowed value) :
    ∃ after, (c.round [lane]).2.1 = [after] ∧ (c.round [lane]).1.Alike c ∧
      after.Leads b allowed value := by
  have turns : ∀ {e : Client σ}, e.Alike c → ∀ {lane : Lane σ α}, lane.Leads b allowed value →
      ∃ after, (e.turn [lane]).2.1 = [after] ∧ (e.turn [lane]).1.Alike c ∧
        after.Leads b allowed value := by
    intro e same lane leads
    have woken := wakeAll_leads (fun r ok => (gives r ok).alike same) leads (e.agenda lane)
    rw [turn_singleton]
    exact ⟨_, rfl, woken.1.trans same, woken.2⟩
  obtain ⟨after, eq, same, led⟩ := turns (.refl c) leads
  unfold round
  split
  · next d lanes turned =>
    rw [turned] at eq same
    exact ⟨after, eq, same, led⟩
  · next d lanes turned =>
    rw [turned] at eq same
    obtain rfl : lanes = [after] := eq
    refine turns ?_ led
    unfold sleep
    split <;> exact same

theorem settle_leads {c : Client σ} (gives : ∀ r, allowed r → c.Gives b r) {lane : Lane σ α}
    {value : α} (leads : lane.Leads b allowed value) : (c.settle [lane]).2 = [.ended value] := by
  generalize whole : [lane] = lanes
  induction c, lanes using settle.induct generalizing lane with
  | case1 c lanes d after moved ih =>
    subst whole
    obtain ⟨next, eq, same, led⟩ := round_leads gives leads
    rw [moved] at eq same
    rw [settle, moved]
    exact ih (fun r ok => (gives r ok).alike same) led eq.symm
  | case2 c lanes d after stands =>
    subst whole
    rw [settle, stands]
    exact (round_idle stands).trans (congrArg ([·]) (round_moves leads stands))

/-- A client over a backend gives every job its value, whatever delays the replies have and in
whatever order jobs side by side go on. -/
theorem run_eq_value {c : Client σ} {t : Job α} (within : t.Within allowed)
    (gives : ∀ r, allowed r → c.Gives b r) : (c.run t).2 = some (t.value b) := by
  obtain ⟨same, leads⟩ := advance_leads gives within
  have settled := settle_leads (fun r ok => (gives r ok).alike same) leads
  simp only [run, start, settled, List.head?_cons, Option.bind_some, Lane.value?]

end Client

/-! Clients over a backend -/

namespace Backend

/-- Answers every statement at once. -/
def executor (b : Backend) : Executor Unit where
  query s _ := (.answered [] (b.query s), ())
  execute s _ := (.answered [] (b.execute s), ())
  batch sql _ := (.answered [] (b.batch sql), ())
  close _ := ()

/-- A new client over the backend that knows the foreign keys, if there are any to know. -/
def client (b : Backend) (config : Config) : Client Unit :=
  { Client.create config b.executor () with
    graphs := { GraphCache.empty with cached := b.graph.toOption } }

theorem within_answered {limit : Option Duration} {events : List Event}
    {answer : Except Error α} :
    ((Reply.answered events answer : Reply σ α).within limit).Gives answer := by
  cases limit <;> rfl

/-- The client gives what the backend answers; to any request, if the foreign keys are known. -/
theorem client_gives (b : Backend) (config : Config) (r : Request)
    (known : r = .graph → ∃ graph, b.graph = .ok graph) : (b.client config).Gives b r := by
  cases r with
  | query | execute | batch => exact fun _ => within_answered
  | graph =>
    obtain ⟨graph, loaded⟩ := known rfl
    refine ⟨graph, ?_, loaded⟩
    change b.graph.toOption = some graph
    rw [loaded]
    rfl

end Backend

end FluentQuery
