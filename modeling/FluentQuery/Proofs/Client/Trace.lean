import FluentQuery.Proofs.Client.Sent

/-! What a client sends for a whole job. A client that runs a job alone brings it to its end, makes
one of the runs of `Job.Trace`, and sends just the statements of the requests of that run, in their
order: `Client.trace_of_run`. The invariant is that of each lane, `Lane.Fair`, and what it may still
do, `Lane.Goes`. -/
namespace FluentQuery

open Script (Record)

variable {σ α β γ : Type}

/-! Lanes -/

namespace Lane

/-- The channels of the loads that the lane leads. -/
def loads {α : Type} : Lane σ α → List Nat
  | .held _ _ wait _ => wait.loads
  | .both _ first second _ => first.loads ++ second.loads
  | .ended _ | .dropped => []

/-- What the lane waits for comes. Of two lanes side by side at least one still waits. -/
def Fair (view : σ → List Record) (fair : (r : Request) → Except Error r.Answer → Prop)
    (graphs : GraphCache) {α : Type} : Lane σ α → Prop
  | .ended _ => True
  | .dropped => False
  | .held _ _ wait _ => wait.Fair view fair graphs
  | .both _ first second _ => first.Fair view fair graphs ∧ second.Fair view fair graphs ∧
      ∀ x y, first = .ended x → second ≠ .ended y

/-- The lane may get answers to what it has asked, then make new exchanges, and end with the
value. -/
def Goes {α : Type} : Lane σ α → List Exchange → List Exchange → α → Prop
  | .ended value, old, new, result => old = [] ∧ new = [] ∧ result = value
  | .dropped, _, _, _ => False
  | .held _ request _ next, old, new, result =>
    ∃ answer, old = [⟨request, answer⟩] ∧ (next answer).Trace new result
  | .both _ first second next, old, new, result =>
    ∃ p l a q m b n rest, first.Goes p l a ∧ second.Goes q m b ∧ old = p ++ q ∧
      Interleaves l m n ∧ new = n ++ rest ∧ (next (a, b)).Trace rest result

end Lane

/-- Exchanges with fair answers, for these requests. -/
def Exchanges (fair : (r : Request) → Except Error r.Answer → Prop) (requests : List Request)
    (asked : List Exchange) : Prop :=
  (∀ x ∈ asked, fair x.request x.answer) ∧ asked.map Exchange.request = requests

theorem Exchanges.append {fair : (r : Request) → Except Error r.Answer → Prop}
    {first second : List Request} {early late : List Exchange}
    (exchanges : Exchanges fair first early) (more : Exchanges fair second late) :
    Exchanges fair (first ++ second) (early ++ late) := by
  refine ⟨fun x member => ?_, by rw [List.map_append, exchanges.2, more.2]⟩
  exact (List.mem_append.1 member).elim (exchanges.1 x) (more.1 x)

variable {view : σ → List Record} {fair : (r : Request) → Except Error r.Answer → Prop}

/-- Whatever the lane may still do, the job may do, with these requests before. -/
def Job.Begins (fair : (r : Request) → Except Error r.Answer → Prop) (t : Job α)
    (requests : List Request) (after : Lane σ α) : Prop :=
  ∀ old new result, after.Goes old new result → (∀ x ∈ old, fair x.request x.answer) →
    ∃ asked, Exchanges fair requests asked ∧ t.Trace (asked ++ new) result

/-- Whatever the second lane may still do, the first may do, with these requests before. -/
def Lane.Precedes (fair : (r : Request) → Except Error r.Answer → Prop) (before : Lane σ α)
    (requests : List Request) (after : Lane σ α) : Prop :=
  ∀ old new result, after.Goes old new result → (∀ x ∈ old, fair x.request x.answer) →
    ∃ past asked, Exchanges fair requests asked ∧ (∀ x ∈ past, fair x.request x.answer) ∧
      before.Goes past (asked ++ new) result

namespace Lane

variable {earlier later : List Request}

theorem Precedes.refl (lane : Lane σ α) : lane.Precedes fair [] lane :=
  fun old _ _ goes good => ⟨old, [], ⟨List.forall_mem_nil _, rfl⟩, good, goes⟩

theorem Precedes.trans {before between after : Lane σ α}
    (precedes : before.Precedes fair earlier between)
    (goes : between.Precedes fair later after) :
    before.Precedes fair (earlier ++ later) after := by
  intro old new result end_ good
  obtain ⟨past, asked, exchanged, good, ends⟩ := goes old new result end_ good
  obtain ⟨older, front, exchanges, good, ends⟩ := precedes _ _ _ ends good
  exact ⟨older, front ++ asked, exchanges.append exchanged, good, by rwa [List.append_assoc]⟩

/-- A lane goes on from the answer that it waited for. -/
theorem Precedes.answered (number : Nat) {request : Request} (wait : Wait σ request)
    {answer : Except Error request.Answer} (good : fair request answer)
    {next : Except Error request.Answer → Job α} {after : Lane σ α}
    (begins : (next answer).Begins fair later after) :
    (held number request wait next).Precedes fair later after := by
  intro old new result ends goods
  obtain ⟨asked, exchanged, goes⟩ := begins old new result ends goods
  refine ⟨[⟨request, answer⟩], asked, exchanged, ?_, answer, rfl, goes⟩
  exact List.forall_mem_singleton.2 good

/-- One of two lanes goes on while the other stands. -/
theorem Precedes.first {before after : Lane σ β} (goes : before.Precedes fair earlier after)
    (order : Order) (other : Lane σ γ) (next : β × γ → Job α) :
    (both order before other next).Precedes fair earlier (both order after other next) := by
  rintro old new result ⟨p, l, a, q, m, b, n, rest, one, two, rfl, woven, rfl, last⟩ good
  simp only [List.mem_append, or_imp, forall_and] at good
  obtain ⟨past, asked, exchanged, early, one⟩ := goes p l a one good.1
  refine ⟨past ++ q, asked, exchanged, ?_, past, asked ++ l, a, q, m, b, asked ++ n, rest, one,
    two, rfl, woven.append_left asked, (List.append_assoc ..).symm, last⟩
  simp only [List.mem_append, or_imp, forall_and]
  exact ⟨early, good.2⟩

theorem Precedes.second {before after : Lane σ γ} (goes : before.Precedes fair earlier after)
    (order : Order) (other : Lane σ β) (next : β × γ → Job α) :
    (both order other before next).Precedes fair earlier (both order other after next) := by
  rintro old new result ⟨p, l, a, q, m, b, n, rest, one, two, rfl, woven, rfl, last⟩ good
  simp only [List.mem_append, or_imp, forall_and] at good
  obtain ⟨past, asked, exchanged, early, two⟩ := goes q m b two good.2
  refine ⟨p ++ past, asked, exchanged, ?_, p, l, a, past, asked ++ m, b, asked ++ n, rest, one,
    two, rfl, woven.append_right asked, (List.append_assoc ..).symm, last⟩
  simp only [List.mem_append, or_imp, forall_and]
  exact ⟨good.1, early⟩

/-- The other lane goes on to wait for what has not been given up. -/
theorem Fair.went {c d : Client σ} {before after : List Nat} {requests : List Request}
    (went : Client.Went view c before requests d after) {lane : Lane σ α}
    (waits : lane.Fair view fair c.graphs) : lane.Fair view fair d.graphs := by
  induction lane with
  | ended | dropped => exact waits
  | held n request wait next =>
    cases wait with
    | reply pending | load ticket pending => exact waits
    | share channel => exact went.joined channel waits
  | both order one two next ihf ihs => exact ⟨ihf waits.1, ihs waits.2.1, waits.2.2⟩

end Lane

namespace Job

variable {earlier later : List Request}

theorem Begins.trans {t : Job α} {between after : Lane σ α} (begins : t.Begins fair earlier between)
    (goes : between.Precedes fair later after) : t.Begins fair (earlier ++ later) after := by
  intro old new result ends good
  obtain ⟨past, asked, exchanged, good, ends⟩ := goes old new result ends good
  obtain ⟨front, exchanges, goes⟩ := begins _ _ _ ends good
  exact ⟨front ++ asked, exchanges.append exchanged, by rwa [List.append_assoc]⟩

/-- A job goes on from the answer to its request. -/
theorem Begins.answered {request : Request} {answer : Except Error request.Answer}
    (good : fair request answer) {next : Except Error request.Answer → Job α} {lane : Lane σ α}
    (begins : (next answer).Begins fair earlier lane) :
    (ask request next).Begins fair (request :: earlier) lane := by
  intro old new result ends goods
  obtain ⟨asked, ⟨fairly, rfl⟩, goes⟩ := begins old new result ends goods
  refine ⟨⟨request, answer⟩ :: asked, ⟨?_, rfl⟩, answer, asked ++ new, rfl, goes⟩
  exact List.forall_mem_cons.2 ⟨good, fairly⟩

/-- A job waits for the answer to its request. -/
theorem Begins.held (number : Nat) {request : Request} (wait : Wait σ request)
    (next : Except Error request.Answer → Job α) :
    (ask request next).Begins fair [request] (.held number request wait next) := by
  rintro old new result ⟨answer, rfl, goes⟩ good
  exact ⟨[⟨request, answer⟩], ⟨good, rfl⟩, answer, new, rfl, goes⟩

theorem Begins.both {one : Job β} {two : Job γ} {front : Lane σ β} {back : Lane σ γ}
    (begins : one.Begins fair earlier front) (other : two.Begins fair later back) (order : Order)
    (next : β × γ → Job α) :
    (both order one two next).Begins fair (earlier ++ later)
      (.both order front back next) := by
  rintro old new result ⟨p, l, a, q, m, b, n, rest, ends, others, rfl, woven, rfl, last⟩ good
  simp only [List.mem_append, or_imp, forall_and] at good
  obtain ⟨asked, exchanged, goes⟩ := begins p l a ends good.1
  obtain ⟨more, exchanges, also⟩ := other q m b others good.2
  refine ⟨asked ++ more, exchanged.append exchanges, asked ++ l, a, more ++ m, b,
    asked ++ (more ++ n), rest, goes, also, ?_, by simp, last⟩
  exact (woven.append_right more).append_left asked

end Job

namespace Client

variable {c d e : Client σ}

/-- After two lanes that have both ended, what follows them begins. -/
theorem precedes_of_begins {order : Order} {a : β} {b : γ} {next : β × γ → Job α}
    {requests : List Request} {lane : Lane σ α}
    (begins : (next (a, b)).Begins fair requests lane) :
    (Lane.both order (.ended a) (.ended b) next).Precedes fair requests lane := by
  intro old new result ends good
  obtain ⟨asked, exchanged, goes⟩ := begins old new result ends good
  exact ⟨[], asked, exchanged, List.forall_mem_nil _, [], [], a, [], [], b, [], asked ++ new,
    ⟨rfl, rfl, rfl⟩, ⟨rfl, rfl, rfl⟩, rfl, .nil, rfl, goes⟩

/-- The lane has come from where it stood with the first client to where it stands with the second:
what was sent in between is what its job asks in between. -/
def Onward (view : σ → List Record) (fair : (r : Request) → Except Error r.Answer → Prop)
    (c : Client σ) (before : Lane σ α) (d : Client σ) (after : Lane σ α) : Prop :=
  ∃ requests, Went view c before.loads requests d after.loads ∧ after.Fair view fair d.graphs ∧
    before.Precedes fair requests after

theorem Onward.refl {lane : Lane σ α} (waits : lane.Fair view fair c.graphs) :
    Onward view fair c lane c lane :=
  ⟨[], .refl c _, waits, .refl lane⟩

theorem Onward.trans {before between after : Lane σ α} (moves : Onward view fair c before d between)
    (goes : Onward view fair d between e after) : Onward view fair c before e after := by
  obtain ⟨first, went, -, precedes⟩ := moves
  obtain ⟨second, goes, waits, follows⟩ := goes
  exact ⟨first ++ second, went.trans goes, waits, precedes.trans follows⟩

/-- Two lanes stay side by side, or go on with the next job when both have ended. -/
theorem join_onward_of {next : β × γ → Job α} {first : Lane σ β} {second : Lane σ γ}
    (goes : ∀ values, ∃ requests,
      Went view c [] requests (c.advance (next values)).1 (c.advance (next values)).2.loads ∧
        (c.advance (next values)).2.Fair view fair (c.advance (next values)).1.graphs ∧
        (next values).Begins fair requests (c.advance (next values)).2)
    (order : Order) (one : first.Fair view fair c.graphs) (two : second.Fair view fair c.graphs) :
    Onward view fair c (.both order first second next) (c.join order first second next).1
      (c.join order first second next).2 := by
  unfold join
  split
  · next a b =>
    obtain ⟨requests, went, waits, begins⟩ := goes (a, b)
    exact ⟨requests, went, waits, precedes_of_begins begins⟩
  · next some_ => exact .refl ⟨one, two, some_⟩

/-- A job runs until it ends or waits: it sends what it asks, and waits for what comes. -/
theorem advance_went (serves : c.Serves view fair) (t : Job α) : ∃ requests,
    Went view c [] requests (c.advance t).1 (c.advance t).2.loads ∧
      (c.advance t).2.Fair view fair (c.advance t).1.graphs ∧
      t.Begins fair requests (c.advance t).2 := by
  induction t generalizing c with
  | done value =>
    refine ⟨[], .refl c [], trivial, ?_⟩
    rintro _ _ _ ⟨rfl, rfl, rfl⟩ -
    exact ⟨[], ⟨List.forall_mem_nil _, rfl⟩, rfl, rfl⟩
  | note event next ih =>
    have quiet : Went view c [] [] (c.report event) [] := .still (c.report_alike event) rfl []
    obtain ⟨requests, went, waits, begins⟩ := ih (serves.went quiet)
    exact ⟨requests, quiet.trans went, waits, begins⟩
  | ask request next ih =>
    obtain ⟨went, comes⟩ := begin_went serves request
    rw [advance]
    split
    · next d answer ready =>
      rw [ready] at went comes
      obtain ⟨requests, goes, waits, begins⟩ := ih answer (serves.went went)
      exact ⟨request :: requests, went.trans goes, waits, begins.answered comes⟩
    · next d wait waits =>
      rw [waits] at went comes
      have counted : Went view d wait.loads [] (d.hold request wait next).1 wait.loads :=
        .still (d.hold_alike request wait next) rfl wait.loads
      exact ⟨[request], went.trans counted, comes, .held _ wait next⟩
  | both order first second next ihf ihs ih =>
    obtain ⟨asked, went, waits, begins⟩ := ihf serves
    obtain ⟨more, goes, also, others⟩ := ihs (serves.went went)
    have behind := goes.after_others (c.advance first).2.loads
    rw [List.append_nil] at behind
    have sent := went.trans behind
    rw [advance_both]
    obtain ⟨rest, last, waits, ends⟩ := join_onward_of (fun values => ih values (serves.went sent))
      order (waits.went goes) also
    exact ⟨_, sent.trans last, waits, (begins.both others order next).trans ends⟩

theorem wake?_onward (serves : c.Serves view fair) {number : Nat} {before after : Lane σ α}
    (waits : before.Fair view fair c.graphs) (woken : c.wake? number before = some (d, after)) :
    Onward view fair c before d after := by
  induction before generalizing c d with
  | ended | dropped => cases woken
  | held n request wait next =>
    rw [wake?] at woken
    split at woken
    · obtain ⟨⟨e, progress⟩, collected, goes⟩ := Option.map_eq_some_iff.1 woken
      obtain ⟨went, comes⟩ := collect?_went serves waits collected
      cases progress with
      | now answer =>
        obtain ⟨requests, sent, waits, begins⟩ := advance_went (serves.went went) (next answer)
        have goes : e.advance (next answer) = (d, after) := goes
        rw [goes] at sent waits begins
        exact ⟨requests, went.trans sent, waits, .answered n wait comes begins⟩
      | later rest =>
        have counted : Went view e rest.loads [] (e.hold request rest next).1 rest.loads :=
          .still (e.hold_alike request rest next) rfl rest.loads
        have goes : e.hold request rest next = (d, after) := goes
        rw [goes] at counted
        cases goes
        exact ⟨[], went.trans counted, comes, .refl _⟩
    · cases woken
  | both order one two next ihf ihs =>
    rw [wake?] at woken
    split at woken
    · next e lane first =>
      obtain ⟨requests, went, comes, precedes⟩ := ihf serves waits.1 first
      have sent := went.beside two.loads
      have both := join_onward_of (fun values => advance_went (serves.went sent) (next values))
        order comes (waits.2.1.went went)
      rw [Option.some.inj woken] at both
      obtain ⟨more, goes, waits, follows⟩ := both
      exact ⟨requests ++ more, sent.trans goes, waits,
        (precedes.first order two next).trans follows⟩
    · split at woken
      · next e lane second =>
        obtain ⟨requests, went, comes, precedes⟩ := ihs serves waits.2.1 second
        have sent := went.after_others one.loads
        have both := join_onward_of (fun values => advance_went (serves.went sent) (next values))
          order (waits.1.went went) comes
        rw [Option.some.inj woken] at both
        obtain ⟨more, goes, waits, follows⟩ := both
        exact ⟨requests ++ more, sent.trans goes, waits,
          (precedes.second order one next).trans follows⟩
      · cases woken

theorem wakeAll_onward (serves : c.Serves view fair) {lane : Lane σ α}
    (waits : lane.Fair view fair c.graphs) (numbers : List Nat) :
    Onward view fair c lane (c.wakeAll lane numbers).1 (c.wakeAll lane numbers).2.1 := by
  induction numbers generalizing c lane with
  | nil => exact .refl waits
  | cons number rest ih =>
    rw [wakeAll]
    split
    · next d after woken =>
      have moves := wake?_onward serves waits woken
      obtain ⟨requests, went, waits, -⟩ := id moves
      exact moves.trans (ih (serves.went went) waits)
    · exact ih serves waits

/-- One lane alone has a turn. -/
theorem turn_onward (serves : c.Serves view fair) {lane : Lane σ α}
    (waits : lane.Fair view fair c.graphs) {lanes : List (Lane σ α)} {moved : Bool}
    (turned : c.turn [lane] = (d, lanes, moved)) :
    ∃ after, lanes = [after] ∧ Onward view fair c lane d after := by
  rw [turn_singleton] at turned
  have moves := wakeAll_onward serves waits (c.agenda lane)
  obtain ⟨rfl, rfl, -⟩ : _ = d ∧ _ = lanes ∧ _ = moved := by simpa using turned
  exact ⟨_, rfl, moves⟩

theorem sleep_onward {lane : Lane σ α} (waits : lane.Fair view fair c.graphs)
    (lanes : List (Lane σ α)) : Onward view fair c lane (c.sleep lanes) lane := by
  have same : (c.sleep lanes).Alike c ∧ (c.sleep lanes).behind = c.behind := by
    unfold sleep
    split <;> exact ⟨.refl c, rfl⟩
  refine ⟨[], .still same.1 (congrArg view same.2) _, ?_, .refl lane⟩
  rwa [same.1.2.2]

theorem round_onward (serves : c.Serves view fair) {lane : Lane σ α}
    (waits : lane.Fair view fair c.graphs) {lanes : List (Lane σ α)} {moved : Bool}
    (goes : c.round [lane] = (d, lanes, moved)) :
    ∃ after, lanes = [after] ∧ Onward view fair c lane d after := by
  unfold round at goes
  split at goes
  · next turned =>
    cases goes
    exact turn_onward serves waits turned
  · next e still turned =>
    obtain ⟨between, rfl, moves⟩ := turn_onward serves waits turned
    obtain ⟨_, went, waits, -⟩ := id moves
    have slept := sleep_onward waits [between]
    obtain ⟨_, later, waits, -⟩ := id slept
    obtain ⟨after, rfl, last⟩ := turn_onward ((serves.went went).went later) waits goes
    exact ⟨after, rfl, (moves.trans slept).trans last⟩

/-! Ends -/

theorem loads_eq_nil {lane : Lane σ α} (none : lane.dues = []) : lane.loads = [] := by
  induction lane with
  | ended | dropped => rfl
  | held n request wait next =>
    cases wait with
    | reply pending | load ticket pending => cases none
    | share channel => rfl
  | both order one two next ihf ihs =>
    obtain ⟨first, second⟩ := List.append_eq_nil_iff.1 none
    rw [Lane.loads, ihf first, ihs second, List.append_nil]

/-- A lane that waits for no reply waits for the outcome of a load. If none is under way, the
outcome is there; so the lane is ready, or it has ended. -/
theorem exists_ended {lane : Lane σ α} (waits : lane.Fair view fair c.graphs)
    (none : lane.dues = []) (unready : c.ready lane = [])
    (free : ∀ id, c.graphs.isRunning id = false) : ∃ value, lane = .ended value := by
  induction lane with
  | ended value => exact ⟨value, rfl⟩
  | dropped => exact waits.elim
  | held n request wait next =>
    cases wait with
    | reply pending | load ticket pending => cases none
    | share channel =>
      have there : c.isReady (.share channel) = true := by
        obtain running | ⟨outcome, there⟩ | abandoned := c.graphs.channel_cases channel
        · rw [free channel] at running
          cases running
        · simp only [isReady, there, Option.isSome_some]
        · cases waits.symm.trans abandoned
      simp [ready, there] at unready
  | both order one two next ihf ihs =>
    obtain ⟨first, second⟩ := List.append_eq_nil_iff.1 none
    have neither : c.ready one = [] ∧ c.ready two = [] := by
      cases order <;> simpa [ready] using unready
    obtain ⟨x, ends⟩ := ihf waits.1 first neither.1
    obtain ⟨y, also⟩ := ihs waits.2.1 second neither.2
    exact absurd also (waits.2.2 x y ends)

/-- The lane of a client on which it leads every load under way comes to its end. -/
theorem settle_onward (serves : c.Serves view fair) {lane : Lane σ α}
    (waits : lane.Fair view fair c.graphs)
    (leads : ∀ id, c.graphs.isRunning id = true → id ∈ lane.loads) :
    ∃ value, (c.settle [lane]).2 = [.ended value] ∧
      Onward view fair c lane (c.settle [lane]).1 (.ended value) := by
  generalize whole : [lane] = lanes
  induction c, lanes using settle.induct generalizing lane with
  | case1 c lanes d next moved ih =>
    subst whole
    obtain ⟨after, rfl, moves⟩ := round_onward serves waits moved
    obtain ⟨_, went, waits, -⟩ := id moves
    rw [settle, moved]
    obtain ⟨value, ends, onward⟩ := ih (serves.went went) waits (fun id running =>
      (went.running id running).resolve_right fun lost => lost.2 (leads id lost.1)) rfl
    exact ⟨value, ends, moves.trans onward⟩
  | case2 c lanes d next stands =>
    subst whole
    obtain ⟨none, unready⟩ := round_rests stands
    rw [loads_eq_nil none] at leads
    obtain ⟨value, rfl⟩ := exists_ended waits none unready fun id =>
      Bool.eq_false_iff.2 fun running => List.not_mem_nil (leads id running)
    obtain ⟨after, rfl, onward⟩ := round_onward serves waits stands
    obtain rfl : after = .ended value := List.singleton_inj.1 (round_idle stands)
    rw [settle, stands]
    exact ⟨value, rfl, onward⟩

/-- A client runs a job alone, while no load is under way. The run ends; it is one that the job may
make; each of its answers is fair; and the executor has got the statements of its requests, in
their order. -/
theorem trace_of_run (serves : c.Serves view fair) (free : ∀ id, c.graphs.isRunning id = false)
    (t : Job α) : ∃ trace value, (c.run t).2 = some value ∧ t.Trace trace value ∧
      (∀ x ∈ trace, fair x.request x.answer) ∧ ∃ records,
        view (c.run t).1.behind = view c.behind ++ records ∧
          Sends c.config (c.graphs.cached = none) (trace.map Exchange.request) records := by
  obtain ⟨first, went, waits, begins⟩ := advance_went serves t
  have leads : ∀ id, (c.advance t).1.graphs.isRunning id = true → id ∈ (c.advance t).2.loads :=
    fun id running => (went.running id running).resolve_right fun lost =>
      Bool.false_ne_true ((free id).symm.trans lost.1)
  obtain ⟨value, settled, second, goes, -, precedes⟩ :=
    settle_onward (serves.went went) waits leads
  have onward := went.trans goes
  obtain ⟨trace, ⟨fairly, requests⟩, ends⟩ :=
    begins.trans precedes [] [] value ⟨rfl, rfl, rfl⟩ (List.forall_mem_nil _)
  obtain ⟨records, sent, sends⟩ := onward.sent
  rw [List.append_nil] at ends
  refine ⟨trace, value, ?_, ends, fairly, records, ?_, requests ▸ sends⟩
  · simp only [run, start, settled, List.head?_cons, Option.bind_some, Lane.value?]
  · simpa only [run, start] using sent

end Client

end FluentQuery
