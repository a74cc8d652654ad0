import FluentQuery.Proofs.Client.Trace

/-! Executors that keep a record of the statements that they are given. Any executor can be made one
of them without a change in what it does, so what `Client.run_recorded` says of their clients is
said of every executor: whatever it answers, and however long it takes. -/
namespace FluentQuery

open Script (Record)

variable {σ ρ α β : Type}

namespace Reply

/-- The reply of a machine beside which something stays as it is. -/
def beside : Reply σ α → Reply (σ × ρ) α
  | .answered events answer => .answered events answer
  | .waiting delay change next =>
    .waiting delay (fun s => (change s.1, s.2)) fun s => (next s.1).beside

/-- The reply may end with the answer. -/
def Yields (answer : Except Error α) : Reply σ α → Prop
  | .answered _ given => given = answer
  | .waiting _ _ next => ∃ s, (next s).Yields answer

theorem beside_within (reply : Reply σ α) (limit : Option Duration) :
    (reply.beside : Reply (σ × ρ) α).within limit = (reply.within limit).beside := by
  have cut (limit : Duration) (left : Nat) :
      (reply.beside : Reply (σ × ρ) α).cut limit left = (reply.cut limit left).beside := by
    induction reply generalizing left with
    | answered events answer => rfl
    | waiting delay change next ih =>
      simp only [beside, Reply.cut]
      split
      · rfl
      · simp only [beside, ih]
  cases limit with
  | none => rfl
  | some limit => exact cut limit _

theorem yields_of_cut {reply : Reply σ α} {limit : Duration} {left : Nat}
    {answer : Except Error α} (yields : (reply.cut limit left).Yields answer) :
    reply.Yields answer ∨ answer = .error (.timeout limit) := by
  induction reply generalizing left with
  | answered events given => exact .inl yields
  | waiting delay change next ih =>
    rw [Reply.cut] at yields
    split at yields
    · obtain ⟨_, late⟩ := yields
      exact .inr late.symm
    · obtain ⟨s, yields⟩ := yields
      exact (ih s yields).imp_left fun found => ⟨s, found⟩

/-- Under a time limit, a reply may also end because time is over. -/
theorem yields_of_within {reply : Reply σ α} {limit : Option Duration} {answer : Except Error α}
    (yields : (reply.within limit).Yields answer) :
    reply.Yields answer ∨ ∃ limit, answer = .error (.timeout limit) := by
  cases limit with
  | none => exact .inl yields
  | some limit => exact (yields_of_cut yields).imp_right fun late => ⟨limit, late⟩

theorem honest_beside (reply : Reply σ α) :
    (reply.beside : Reply (σ × ρ) α).Honest Prod.snd fun answer => reply.Yields answer := by
  induction reply with
  | answered events answer => rfl
  | waiting delay change next ih =>
    exact ⟨fun _ => rfl, fun s => (ih s.1).imp fun _ yields => ⟨s.1, yields⟩⟩

end Reply

namespace Executor

/-- The executor beside a record of all statements that it is given. -/
def recorded (e : Executor σ) : Executor (σ × List Record) where
  query s behind :=
    ((e.query s behind.1).1.beside, (e.query s behind.1).2, behind.2 ++ [⟨.query, s⟩])
  execute s behind :=
    ((e.execute s behind.1).1.beside, (e.execute s behind.1).2, behind.2 ++ [⟨.execute, s⟩])
  batch sql behind :=
    ((e.batch sql behind.1).1.beside, (e.batch sql behind.1).2,
      behind.2 ++ [⟨.batch, ⟨sql, []⟩⟩])
  close behind := (e.close behind.1, behind.2)

/-- What a client over the executor may answer to a request in the time that it gives. It answers
one for the foreign keys itself, and only with an error of its own. -/
def Answers (e : Executor σ) (limit : Option Duration) :
    (r : Request) → Except Error r.Answer → Prop
  | .query _ s, answer => ∃ behind, ((e.query s behind).1.within limit).Yields answer
  | .execute _ s, answer => ∃ behind, ((e.execute s behind).1.within limit).Yields answer
  | .batch sql, answer => ∃ behind, ((e.batch sql behind).1.within limit).Yields answer
  | .graph, answer => ∀ error, answer = .error error → ∃ detail, error = .graph detail

end Executor

namespace Client

variable {e : Executor σ} {c : Client (σ × List Record)}

theorem serves_recorded (recorded : c.executor = e.recorded) :
    c.Serves Prod.snd (e.Answers c.config.timeout) := by
  have fairly {r : Request} {reply : Reply σ r.Answer}
      (answers : ∀ answer, (reply.within c.config.timeout).Yields answer →
        e.Answers c.config.timeout r answer) :
      ((reply.beside : Reply (σ × List Record) _).within c.config.timeout).Honest Prod.snd
        (e.Answers c.config.timeout r) := by
    rw [Reply.beside_within]
    exact (Reply.honest_beside _).imp answers
  constructor
  · intro kind s behind
    rw [recorded]
    exact ⟨rfl, fairly (r := .query kind s) fun _ yields => ⟨behind.1, yields⟩⟩
  · intro kind s behind
    rw [recorded]
    exact ⟨rfl, fairly (r := .execute kind s) fun _ yields => ⟨behind.1, yields⟩⟩
  · intro sql behind
    rw [recorded]
    exact ⟨rfl, fairly (r := .batch sql) fun _ yields => ⟨behind.1, yields⟩⟩
  · exact fun _ => nofun
  · rintro detail _ ⟨⟩
    exact ⟨detail, rfl⟩

/-- What one client has sent to its executor and the other had not. -/
def Sent (c d : Client (σ × List Record)) (records : List Record) : Prop :=
  d.behind.2 = c.behind.2 ++ records

/-- Every run of a job alone ends, makes one of the runs of the job with answers of the executor,
and sends the statements of its requests and no others. -/
theorem run_recorded (recorded : c.executor = e.recorded)
    (free : ∀ id, c.graphs.isRunning id = false) (t : Job α) : ∃ trace value,
      (c.run t).2 = some value ∧ t.Trace trace value ∧
      (∀ x ∈ trace, e.Answers c.config.timeout x.request x.answer) ∧ ∃ records,
        c.Sent (c.run t).1 records ∧
          Sends c.config (c.graphs.cached = none) (trace.map Exchange.request) records :=
  trace_of_run (serves_recorded recorded) free t

end Client

end FluentQuery
