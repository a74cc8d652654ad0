import FluentQuery.Script
import FluentQuery.Proofs.Client
import FluentQuery.Proofs.GraphCache.Callers
import FluentQuery.Proofs.Job.Trace

/-! What a client sends to its executor as it answers one request. The statement of a request goes
out when the request is begun; while the reply is under way nothing else is sent for it. A request
for the foreign keys sends the statement that loads them at most if none are kept. `Client.Went`
says what a client has sent from one moment to another. -/
namespace FluentQuery

open Script (Record)

variable {σ ρ α β γ : Type}

/-! Replies -/

namespace Reply

/-- The view stays the same whatever happens meanwhile, and the answer is a fair one. -/
def Honest (view : σ → ρ) (fair : Except Error α → Prop) : Reply σ α → Prop
  | .answered _ answer => fair answer
  | .waiting _ change next => (∀ s, view (change s) = view s) ∧ ∀ s, (next s).Honest view fair

variable {view : σ → ρ} {fair weaker : Except Error α → Prop} {reply : Reply σ α}

theorem Honest.imp (honest : reply.Honest view fair) (implies : ∀ a, fair a → weaker a) :
    reply.Honest view weaker := by
  induction reply with
  | answered events answer => exact implies _ honest
  | waiting delay change next ih => exact ⟨honest.1, fun s => ih s (honest.2 s)⟩

end Reply

def Pending.Honest (view : σ → ρ) (fair : Except Error α → Prop) (p : Pending σ α) : Prop :=
  (∀ s, view (p.change s) = view s) ∧ ∀ s, (p.next s).Honest view fair

def Arrival.Honest (view : σ → ρ) (fair : Except Error α → Prop) : Arrival σ α → Prop
  | .full _ answer => fair answer
  | .partly pending => pending.Honest view fair

/-! Statements -/

/-- The statements that requests send; those for the foreign keys only if they may be loaded. -/
inductive Sends (config : Config) (loading : Prop) : List Request → List Record → Prop where
  | nil : Sends config loading [] []
  | query {requests : List Request} {records : List Record} (kind : StatementKind) (s : Statement)
      (rest : Sends config loading requests records) :
      Sends config loading (.query kind s :: requests) (⟨.query, s⟩ :: records)
  | execute {requests : List Request} {records : List Record} (kind : StatementKind)
      (s : Statement) (rest : Sends config loading requests records) :
      Sends config loading (.execute kind s :: requests) (⟨.execute, s⟩ :: records)
  | batch {requests : List Request} {records : List Record} (sql : Text)
      (rest : Sends config loading requests records) :
      Sends config loading (.batch sql :: requests) (⟨.batch, ⟨sql, []⟩⟩ :: records)
  | known {requests : List Request} {records : List Record}
      (rest : Sends config loading requests records) :
      Sends config loading (.graph :: requests) records
  | load {requests : List Request} {records : List Record} (may : loading)
      (rest : Sends config loading requests records) :
      Sends config loading (.graph :: requests)
        (⟨.query, Graph.statement config.schemas⟩ :: records)

namespace Sends

variable {config : Config} {loading also : Prop} {first second : List Request}
  {early late : List Record}

theorem imp (implies : loading → also) (sends : Sends config loading first early) :
    Sends config also first early := by
  induction sends with
  | nil => exact .nil
  | query kind s _ ih => exact .query kind s ih
  | execute kind s _ ih => exact .execute kind s ih
  | batch sql _ ih => exact .batch sql ih
  | known _ ih => exact .known ih
  | load may _ ih => exact .load (implies may) ih

theorem append (sends : Sends config loading first early)
    (more : Sends config loading second late) :
    Sends config loading (first ++ second) (early ++ late) := by
  induction sends with
  | nil => exact more
  | query kind s _ ih => exact .query kind s ih
  | execute kind s _ ih => exact .execute kind s ih
  | batch sql _ ih => exact .batch sql ih
  | known _ ih => exact .known ih
  | load may _ ih => exact .load may ih

theorem split (sends : Sends config loading (first ++ second) late) :
    ∃ early rest, late = early ++ rest ∧ Sends config loading first early ∧
      Sends config loading second rest := by
  induction first generalizing late with
  | nil => exact ⟨[], late, rfl, .nil, sends⟩
  | cons request first ih =>
    cases sends with
    | query kind s rest =>
      obtain ⟨early, others, rfl, here, there⟩ := ih rest
      exact ⟨_ :: early, others, rfl, .query kind s here, there⟩
    | execute kind s rest =>
      obtain ⟨early, others, rfl, here, there⟩ := ih rest
      exact ⟨_ :: early, others, rfl, .execute kind s here, there⟩
    | batch sql rest =>
      obtain ⟨early, others, rfl, here, there⟩ := ih rest
      exact ⟨_ :: early, others, rfl, .batch sql here, there⟩
    | known rest =>
      obtain ⟨early, others, rfl, here, there⟩ := ih rest
      exact ⟨early, others, rfl, .known here, there⟩
    | load may rest =>
      obtain ⟨early, others, rfl, here, there⟩ := ih rest
      exact ⟨_ :: early, others, rfl, .load may here, there⟩

end Sends

namespace Client

variable {view : σ → List Record} {fair : (r : Request) → Except Error r.Answer → Prop}
  {c d e : Client σ}

/-- Under its view, the executor records each statement that it takes, and nothing else; and it
answers fairly in the time that the client gives it. -/
structure Serves (c : Client σ) (view : σ → List Record)
    (fair : (r : Request) → Except Error r.Answer → Prop) : Prop where
  query : ∀ kind s behind, view (c.executor.query s behind).2 = view behind ++ [⟨.query, s⟩] ∧
    ((c.executor.query s behind).1.within c.config.timeout).Honest view (fair (.query kind s))
  execute : ∀ kind s behind,
    view (c.executor.execute s behind).2 = view behind ++ [⟨.execute, s⟩] ∧
      ((c.executor.execute s behind).1.within c.config.timeout).Honest view
        (fair (.execute kind s))
  batch : ∀ sql behind,
    view (c.executor.batch sql behind).2 = view behind ++ [⟨.batch, ⟨sql, []⟩⟩] ∧
    ((c.executor.batch sql behind).1.within c.config.timeout).Honest view (fair (.batch sql))
  graph : ∀ graph, fair .graph (.ok graph)
  noGraph : ∀ detail, fair .graph (.error (.graph detail))

/-- From one client to the other, the requests were sent. The channels are those of the loads under
way that are looked at, before and after. -/
structure Went (view : σ → List Record) (c : Client σ) (before : List Nat)
    (requests : List Request) (d : Client σ) (after : List Nat) : Prop where
  executor : d.executor = c.executor
  config : d.config = c.config
  known : c.graphs.cached ≠ none → d.graphs.cached ≠ none
  sent : ∃ records, view d.behind = view c.behind ++ records ∧
    Sends c.config (c.graphs.cached = none) requests records
  running : ∀ id, d.graphs.isRunning id = true →
    id ∈ after ∨ c.graphs.isRunning id = true ∧ id ∉ before
  joined : ∀ id, c.graphs.isAbandoned id = false → d.graphs.isAbandoned id = false

namespace Went

variable {before between after : List Nat} {first second : List Request}

/-- Nothing has changed but what the executor has taken, what is reported, and the time. -/
theorem of_alike (same : d.Alike c) {requests : List Request} {records : List Record}
    (taken : view d.behind = view c.behind ++ records)
    (sends : Sends c.config (c.graphs.cached = none) requests records) (loads : List Nat) :
    Went view c loads requests d loads := by
  obtain ⟨executor, config, graphs⟩ := same
  refine ⟨executor, config, by rw [graphs]; exact id, ⟨records, taken, sends⟩, ?_, ?_⟩
  · intro id running
    rw [graphs] at running
    exact Decidable.or_iff_not_imp_left.2 fun none => ⟨running, none⟩
  · rw [graphs]
    exact fun _ => id

theorem still (same : d.Alike c) (kept : view d.behind = view c.behind) (loads : List Nat) :
    Went view c loads [] d loads :=
  of_alike same (by rw [kept, List.append_nil]) .nil loads

theorem refl (c : Client σ) (loads : List Nat) : Went view c loads [] c loads :=
  still (.refl c) rfl loads

theorem trans (went : Went view c before first d between)
    (goes : Went view d between second e after) :
    Went view c before (first ++ second) e after := by
  refine ⟨goes.executor.trans went.executor, goes.config.trans went.config,
    fun known => goes.known (went.known known), ?_, fun id running => ?_,
    fun id joined => goes.joined id (went.joined id joined)⟩
  · obtain ⟨early, taken, sends⟩ := went.sent
    obtain ⟨late, more, others⟩ := goes.sent
    rw [went.config] at others
    refine ⟨early ++ late, by rw [more, taken, List.append_assoc], sends.append ?_⟩
    exact others.imp fun none => Decidable.byContradiction fun known => went.known known none
  · obtain here | ⟨running, gone⟩ := goes.running id running
    · exact .inl here
    · exact .inr ((went.running id running).resolve_left gone)

/-- Other loads go on meanwhile. -/
theorem beside (went : Went view c before first d after) (others : List Nat) :
    Went view c (before ++ others) first d (after ++ others) := by
  refine { went with running := fun id running => ?_ }
  simp only [List.mem_append, not_or]
  obtain here | ⟨running, none⟩ := went.running id running
  · exact .inl (.inl here)
  · by_cases other : id ∈ others
    · exact .inl (.inr other)
    · exact .inr ⟨running, none, other⟩

theorem after_others (went : Went view c before first d after) (others : List Nat) :
    Went view c (others ++ before) first d (others ++ after) := by
  have turned := went.beside others
  refine { turned with running := fun id running => ?_ }
  simpa only [List.mem_append, or_comm] using turned.running id running

end Went

theorem Serves.went (serves : c.Serves view fair) {before after : List Nat}
    {requests : List Request} (went : Went view c before requests d after) :
    d.Serves view fair := by
  obtain ⟨query, execute, batch, graph, noGraph⟩ := serves
  rw [← went.executor, ← went.config] at query execute batch
  exact ⟨query, execute, batch, graph, noGraph⟩

/-! Requests -/

theorem follow_honest (c : Client σ) {reply : Reply σ β} {good : Except Error β → Prop}
    (honest : reply.Honest view good) :
    (c.follow reply).1.Alike c ∧ view (c.follow reply).1.behind = view c.behind ∧
      (c.follow reply).2.Honest view good := by
  induction reply generalizing c with
  | answered events answer => exact ⟨.refl c, rfl, honest⟩
  | waiting delay change next ih =>
    rw [follow]
    split
    · obtain ⟨same, kept, arrives⟩ :=
        ih c.behind { c with behind := change c.behind } (honest.2 c.behind)
      exact ⟨same, kept.trans (honest.1 c.behind), arrives⟩
    · exact ⟨.refl c, rfl, honest⟩

theorem resume?_honest {pending : Pending σ β} {good : Except Error β → Prop}
    {arrival : Arrival σ β} (honest : pending.Honest view good)
    (resumed : c.resume? pending = some (d, arrival)) :
    d.Alike c ∧ view d.behind = view c.behind ∧ arrival.Honest view good := by
  unfold resume? at resumed
  split at resumed
  · obtain ⟨same, kept, arrives⟩ :=
      follow_honest { c with behind := pending.change c.behind } (honest.2 c.behind)
    rw [Option.some.inj resumed] at same kept arrives
    exact ⟨same, kept.trans (honest.1 c.behind), arrives⟩
  · cases resumed

end Client

/-- The channels of the loads that are waited for as their leader. -/
def Wait.loads {r : Request} : Wait σ r → List Nat
  | .load ticket _ => [ticket.channel]
  | .reply _ | .share _ => []

/-- What is waited for comes fairly; a load of another lane has not been given up. -/
def Wait.Fair (view : σ → List Record) (fair : (r : Request) → Except Error r.Answer → Prop)
    (graphs : GraphCache) : {r : Request} → Wait σ r → Prop
  | r, .reply pending => pending.Honest view (fair r)
  | _, .load _ pending => pending.Honest view fun _ => True
  | _, .share channel => graphs.isAbandoned channel = false

def Progress.loads {r : Request} : Progress σ r → List Nat
  | .now _ => []
  | .later wait => wait.loads

def Progress.Fair (view : σ → List Record) (fair : (r : Request) → Except Error r.Answer → Prop)
    (graphs : GraphCache) {r : Request} : Progress σ r → Prop
  | .now answer => fair r answer
  | .later wait => wait.Fair view fair graphs

namespace Client

variable {view : σ → List Record} {fair : (r : Request) → Except Error r.Answer → Prop}
  {c d e : Client σ}

theorem report_alike (c : Client σ) (event : Event) : (c.report event).Alike c :=
  ⟨rfl, rfl, rfl⟩

theorem hold_alike (c : Client σ) (request : Request) (wait : Wait σ request)
    (next : Except Error request.Answer → Job α) : (c.hold request wait next).1.Alike c :=
  ⟨rfl, rfl, rfl⟩

theorem behind_receive (c : Client σ) (r : Request) (events : List Event)
    (answer : Except Error r.Answer) : (c.receive r events answer).behind = c.behind := by
  unfold receive confirm
  split
  · split <;> rfl
  · split <;> rfl
  · rfl

theorem accept_went (c : Client σ) {r : Request} {arrival : Arrival σ r.Answer}
    (arrives : arrival.Honest view (fair r)) :
    Went view c [] [] (c.accept r arrival).1 (c.accept r arrival).2.loads ∧
      (c.accept r arrival).2.Fair view fair (c.accept r arrival).1.graphs := by
  cases arrival with
  | full events answer =>
    exact ⟨.still (c.receive_alike r events answer)
      (congrArg view (c.behind_receive r events answer)) [], arrives⟩
  | partly pending => exact ⟨.refl c [], arrives⟩

/-- A statement goes to the executor, and then something has arrived. -/
theorem send_went (c : Client σ) (kind : StatementKind) (parameters : Nat) (sql : Text)
    {work : σ → Reply σ β × σ} {good : Except Error β → Prop} {record : Record}
    (taken : ∀ behind, view (work behind).2 = view behind ++ [record] ∧
      ((work behind).1.within c.config.timeout).Honest view good) :
    let sent := (c.announce kind parameters sql).send work
    sent.1.Alike c ∧ view sent.1.behind = view c.behind ++ [record] ∧
      sent.2.Honest view good := by
  have announced := c.announce_alike kind parameters sql
  have quiet : (c.announce kind parameters sql).behind = c.behind := by
    unfold announce
    split <;> rfl
  generalize c.announce kind parameters sql = d at announced quiet
  obtain ⟨recorded, honest⟩ := taken d.behind
  rw [← announced.2.1] at honest
  obtain ⟨same, kept, arrives⟩ := follow_honest { d with behind := (work d.behind).2 } honest
  refine ⟨same.trans announced, ?_, arrives⟩
  rw [← quiet, ← recorded]
  exact kept

/-! Foreign keys -/

/-- A load ends with the outcome that everyone gets who waits for it. -/
theorem finishLoad_publishes (c : Client σ) (ticket : Ticket) (events : List Event)
    (answer : Except Error (List Row)) : ∃ outcome,
      (c.finishLoad ticket events answer).1.graphs = c.graphs.publish ticket outcome ∧
      (c.finishLoad ticket events answer).2 = outcome.mapError .graph ∧
      (c.finishLoad ticket events answer).1.executor = c.executor ∧
      (c.finishLoad ticket events answer).1.config = c.config ∧
      (c.finishLoad ticket events answer).1.behind = c.behind := by
  have quiet (rows : List Row) : ((c.reportAll events).confirm .graph rows.length).Alike c ∧
      ((c.reportAll events).confirm .graph rows.length).behind = c.behind := by
    unfold confirm
    split <;> exact ⟨.refl c, rfl⟩
  cases answer with
  | error e => exact ⟨.error e.message, rfl, rfl, rfl, rfl, rfl⟩
  | ok rows =>
    obtain ⟨⟨executor, config, graphs⟩, behind⟩ := quiet rows
    rw [finishLoad, ok_bind]
    cases Graph.ofRows rows with
    | ok graph => exact ⟨.ok graph, by rw [← graphs], rfl, executor, config, behind⟩
    | error e => exact ⟨.error e.message, by rw [← graphs], rfl, executor, config, behind⟩

theorem finishLoad_went (serves : c.Serves view fair) (ticket : Ticket) (events : List Event)
    (answer : Except Error (List Row)) :
    Went view c [ticket.channel] [] (c.finishLoad ticket events answer).1 [] ∧
      fair .graph (c.finishLoad ticket events answer).2 := by
  obtain ⟨outcome, graphs, given, executor, config, behind⟩ :=
    c.finishLoad_publishes ticket events answer
  have channels : (c.finishLoad ticket events answer).1.graphs.channels =
      c.graphs.channels.set ticket.channel (.resolved outcome) := by
    rw [graphs]
    rfl
  constructor
  · refine ⟨executor, config, ?_, ⟨[], by simp [behind], .nil⟩, fun id running => .inr ?_,
      fun id joined => ?_⟩
    · rw [graphs]
      cases outcome with
      | error detail => exact id
      | ok graph =>
        simp only [GraphCache.publish]
        split
        · intro _ unkept
          cases unkept
        · exact id
    · rw [GraphCache.isRunning_iff, channels, List.getElem?_set] at running
      split at running
      · split at running <;> cases running
      · next apart =>
        exact ⟨GraphCache.isRunning_iff.2 running, by simpa [eq_comm] using apart⟩
    · rw [GraphCache.isAbandoned_eq_false_iff] at joined ⊢
      obtain ⟨channel, found, open_⟩ := joined
      rw [channels, List.getElem?_set]
      have bound := (List.getElem?_eq_some_iff.1 found).1
      split
      · next here =>
        subst here
        refine ⟨_, if_pos bound, fun abandoned => ?_⟩
        cases abandoned
      · exact ⟨channel, found, open_⟩
  · rw [given]
    cases outcome with
    | ok graph => exact serves.graph graph
    | error detail => exact serves.noGraph detail

theorem acceptGraph_went (serves : c.Serves view fair) (ticket : Ticket)
    {arrival : Arrival σ (List Row)} (arrives : arrival.Honest view fun _ => True) :
    Went view c [ticket.channel] [] (c.acceptGraph ticket arrival).1
        (c.acceptGraph ticket arrival).2.loads ∧
      (c.acceptGraph ticket arrival).2.Fair view fair (c.acceptGraph ticket arrival).1.graphs := by
  cases arrival with
  | full events answer => exact finishLoad_went serves ticket events answer
  | partly pending => exact ⟨.refl c _, arrives⟩

theorem startLoad_went (serves : c.Serves view fair) (none : c.graphs.cached = none)
    (ticket : Ticket) :
    Went view c [ticket.channel] [.graph] (c.startLoad ticket).1 (c.startLoad ticket).2.loads ∧
      (c.startLoad ticket).2.Fair view fair (c.startLoad ticket).1.graphs := by
  rw [startLoad]
  generalize statement : Graph.statement c.config.schemas = s
  obtain ⟨same, taken, arrives⟩ := c.send_went .graph s.params.length s.sql fun behind =>
    (serves.query .graph s behind).imp_right fun honest => honest.imp fun _ _ => trivial
  have sends : Sends c.config (c.graphs.cached = Option.none) [.graph] [⟨.query, s⟩] := by
    rw [← statement]
    exact .load none .nil
  have sent := Went.of_alike same taken sends [ticket.channel]
  obtain ⟨went, comes⟩ := acceptGraph_went (serves.went sent) ticket arrives
  exact ⟨sent.trans went, comes⟩

/-- The foreign keys are known, or come from a load under way, or one begins. -/
theorem findGraph_went (serves : c.Serves view fair) :
    Went view c [] [.graph] c.findGraph.1 c.findGraph.2.loads ∧
      c.findGraph.2.Fair view fair c.findGraph.1.graphs := by
  have silent : Went view c [] [.graph] c [] := by
    have still : Went view c [] [] c [] := .refl c []
    exact { still with sent := ⟨[], by simp, .known .nil⟩ }
  unfold findGraph
  generalize enters : c.graphs.enter = entered
  obtain ⟨graphs, entry⟩ := entered
  obtain ⟨graph, -, rfl, rfl⟩ | ⟨id, -, -, running, rfl, rfl⟩ | ⟨none, -, rfl, rfl⟩ :=
    GraphCache.enter_cases enters
  · exact ⟨silent, serves.graph graph⟩
  · refine ⟨silent, GraphCache.isAbandoned_eq_false_iff.2 ⟨.running, ?_, nofun⟩⟩
    exact GraphCache.isRunning_iff.1 running
  · -- The load stands on a channel of its own before its statement is sent.
    have opened : Went view c [] []
        { c with graphs := { c.graphs with
            flight := some c.graphs.channels.length
            channels := c.graphs.channels ++ [.running] } } [c.graphs.channels.length] := by
      refine ⟨rfl, rfl, id, ⟨[], by simp, .nil⟩, fun id running => ?_, fun id joined => ?_⟩
      · rw [GraphCache.isRunning_iff] at running
        obtain old | new := Nat.lt_or_ge id c.graphs.channels.length
        · rw [List.getElem?_append_left old, ← GraphCache.isRunning_iff] at running
          exact .inr ⟨running, List.not_mem_nil⟩
        · have bound := (List.getElem?_eq_some_iff.1 running).1
          rw [List.length_append, List.length_singleton] at bound
          exact .inl (List.mem_singleton.2 (Nat.le_antisymm (Nat.lt_succ_iff.1 bound) new))
      · rw [GraphCache.isAbandoned_eq_false_iff] at joined ⊢
        obtain ⟨channel, found, kept⟩ := joined
        refine ⟨channel, ?_, kept⟩
        rwa [List.getElem?_append_left (List.getElem?_eq_some_iff.1 found).1]
    obtain ⟨went, comes⟩ := startLoad_went (serves.went opened) none
      ⟨c.graphs.channels.length, c.graphs.generation⟩
    exact ⟨opened.trans went, comes⟩

/-! Requests -/

theorem begin_went (serves : c.Serves view fair) (r : Request) :
    Went view c [] [r] (c.begin r).1 (c.begin r).2.loads ∧
      (c.begin r).2.Fair view fair (c.begin r).1.graphs := by
  have asked (kind : StatementKind) (parameters : Nat) (sql : Text) {record : Record}
      {work : σ → Reply σ r.Answer × σ}
      (taken : ∀ behind, view (work behind).2 = view behind ++ [record] ∧
        ((work behind).1.within c.config.timeout).Honest view (fair r))
      (sends : Sends c.config (c.graphs.cached = none) [r] [record]) :
      let sent := (c.announce kind parameters sql).send work
      Went view c [] [r] (sent.1.accept r sent.2).1 (sent.1.accept r sent.2).2.loads ∧
        (sent.1.accept r sent.2).2.Fair view fair (sent.1.accept r sent.2).1.graphs := by
    intro sent
    obtain ⟨same, recorded, arrives⟩ := c.send_went kind parameters sql taken
    obtain ⟨went, comes⟩ := sent.1.accept_went arrives
    exact ⟨(Went.of_alike same recorded sends []).trans went, comes⟩
  cases r with
  | query kind s => exact asked kind _ _ (serves.query kind s) (.query kind s .nil)
  | execute kind s => exact asked kind _ _ (serves.execute kind s) (.execute kind s .nil)
  | batch sql => exact asked .raw _ _ (serves.batch sql) (.batch sql .nil)
  | graph => exact findGraph_went serves

theorem collect?_went (serves : c.Serves view fair) {r : Request} {wait : Wait σ r}
    {progress : Progress σ r} (waits : wait.Fair view fair c.graphs)
    (collected : c.collect? r wait = some (d, progress)) :
    Went view c wait.loads [] d progress.loads ∧ progress.Fair view fair d.graphs := by
  cases wait with
  | reply pending =>
    obtain ⟨⟨e, arrival⟩, resumed, accepted⟩ := Option.map_eq_some_iff.1 collected
    obtain ⟨same, kept, arrives⟩ := resume?_honest waits resumed
    have moved := e.accept_went arrives
    rw [show e.accept r arrival = (d, progress) from accepted] at moved
    exact ⟨(Went.still same kept []).trans moved.1, moved.2⟩
  | load ticket pending =>
    obtain ⟨⟨e, arrival⟩, resumed, accepted⟩ := Option.map_eq_some_iff.1 collected
    obtain ⟨same, kept, arrives⟩ := resume?_honest waits resumed
    have still := Went.still same kept [ticket.channel]
    have moved := acceptGraph_went (serves.went still) ticket arrives
    rw [show e.acceptGraph ticket arrival = (d, progress) from accepted] at moved
    exact ⟨still.trans moved.1, moved.2⟩
  | share channel =>
    obtain ⟨outcome, there, shared⟩ := Option.map_eq_some_iff.1 collected
    cases shared
    refine ⟨.refl c [], ?_⟩
    cases outcome with
    | ok graph => exact serves.graph graph
    | error detail => exact serves.noGraph detail

end Client

end FluentQuery
