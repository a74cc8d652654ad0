import FluentQuery.Proofs.Query.Course

/-! Queries that end with a validation error. Neither a main statement nor a lookup is sent for
them, but a select in a count mode is counted before the rest of it is looked at: so a select list
or an order that is refused comes after the count, as `counts_ne_nil_iff` and the query
`oddlyCounted` show. -/
namespace FluentQuery

variable {σ α : Type}

theorem Fault.code_ofError (e : Error) : (ofError e).code = some e.code := by
  cases e <;> rfl

/-- An error with the code of validation comes of what the caller gave, unless the server reports
that code. -/
theorem Error.cases_of_invalidCode {e : Error} (code : e.code = invalidCode) :
    (∃ cause, e = .invalid cause) ∨ (∃ detail, e = .serialization detail) ∨
      ∃ report, e = .database report := by
  have other {t : Text} (coded : e.code = t) (apart : t ≠ invalidCode) : False :=
    apart (coded.symm.trans code)
  cases e with
  | invalid cause => exact .inl ⟨cause, rfl⟩
  | serialization detail => exact .inr (.inl ⟨detail, rfl⟩)
  | database report => exact .inr (.inr ⟨report, rfl⟩)
  | cardinality rows => exact (other (t := "PGRST116") rfl (by decide)).elim
  | graph detail => exact (other (t := "PGRST002") rfl (by decide)).elim
  | timeout limit => exact (other (t := "57014") rfl (by decide)).elim
  | connection | query | decode | pool =>
    exact (other (t := "PGRST000") rfl (by decide)).elim

/-- The executor itself answers no statement with a validation error. -/
structure Executor.NeverRefuses (e : Executor σ) : Prop where
  query : ∀ s behind f, (e.query s behind).1.Yields (.error f) → f.code ≠ Error.invalidCode
  execute : ∀ s behind f, (e.execute s behind).1.Yields (.error f) → f.code ≠ Error.invalidCode
  batch : ∀ sql behind f, (e.batch sql behind).1.Yields (.error f) → f.code ≠ Error.invalidCode

/-- Then no answer that a client gives to a request is one. -/
theorem Executor.NeverRefuses.code_ne {e : Executor σ} (never : e.NeverRefuses)
    {limit : Option Duration} {x : Exchange} (answers : e.Answers limit x.request x.answer)
    {f : Error} (failed : x.error? = some f) : f.code ≠ Error.invalidCode := by
  have code {β : Type} {reply : Reply σ β}
      (clean : reply.Yields (.error f) → f.code ≠ Error.invalidCode)
      (yields : (reply.within limit).Yields (.error f)) : f.code ≠ Error.invalidCode := by
    obtain given | ⟨time, late⟩ := Reply.yields_of_within yields
    · exact clean given
    · rw [Except.error.inj late]
      exact fun code => by simpa using Error.cases_of_invalidCode code
  obtain ⟨request, answer⟩ := x
  obtain rfl : answer = .error f := by
    cases answer with
    | ok value => cases failed
    | error g => cases failed; rfl
  cases request with
  | query kind s =>
    obtain ⟨behind, yields⟩ := answers
    exact code (never.query s behind f) yields
  | execute kind s =>
    obtain ⟨behind, yields⟩ := answers
    exact code (never.execute s behind f) yields
  | batch sql =>
    obtain ⟨behind, yields⟩ := answers
    exact code (never.batch sql behind f) yields
  | graph =>
    obtain ⟨detail, rfl⟩ := answers f rfl
    exact fun code => by simpa using Error.cases_of_invalidCode code

namespace Query

variable {config : Config} {q : Query} {trace : List Exchange}

/-! What is counted -/

/-- The estimate can be written just when the count can. -/
theorem exists_planStatement_iff {searchConfig : Text} :
    (∃ s, q.planStatement searchConfig = .ok s) ↔ ∃ s, q.countStatement searchConfig = .ok s := by
  unfold planStatement countStatement
  cases q.tableSql with
  | error cause => simp
  | ok table => cases q.whereSql searchConfig .empty <;> simp

theorem countRows_ne_nil_iff {mode : CountMode} {result : Except Error Int}
    (goes : (q.countRows config mode).run.Trace trace result) :
    trace ≠ [] ↔ ∃ s, q.countStatement config.searchConfig = .ok s := by
  have number {made : Except Invalid Statement} {read : List Row → Except Error Int}
      {trace : List Exchange} {result : Except Error Int}
      (goes : (do
        let s ← Attempt.valid made
        let rows ← Attempt.query .count s
        MonadExcept.ofExcept (read rows) : Attempt Int).run.Trace trace result) :
      trace ≠ [] ↔ ∃ s, made = .ok s := by
    obtain ⟨cause, rfl, rfl, -⟩ | ⟨s, answer, rfl, rfl, -⟩ := trace_number goes <;> simp
  cases mode with
  | exact => exact number goes
  | planned => exact (number goes).trans exists_planStatement_iff
  | estimated =>
    rw [← exists_planStatement_iff]
    obtain ⟨e, estimates, rfl⟩ | ⟨front, n, back, estimates, rfl, -⟩ := Attempt.trace_bind.1 goes
    · exact number estimates
    · -- An estimate that has been read has been asked for.
      obtain ⟨_, -, -, ⟨⟩⟩ | ⟨s, answer, planned, rfl, -⟩ := trace_number estimates
      exact iff_of_true (List.cons_ne_nil _ _) ⟨s, planned⟩

/-- A query that is counted before anything else of it is looked at: a select in a count mode that
was not refused at once, and whose table and filters can be written. -/
structure CountsFirst (config : Config) (q : Query) : Prop where
  accepted : q.deferred = none
  selects : q.action.isMutation = false
  mode : q.count ≠ none
  compiles : ∃ s, q.countStatement config.searchConfig = .ok s

theorem counts_ne_nil_iff {n : Except Error (Option Int)}
    (goes : (q.counted config).run.Trace trace n) : trace ≠ [] ↔ q.CountsFirst config := by
  unfold counted at goes
  split at goes
  · next both =>
    unfold counts at goes
    cases mode : q.count with
    | none =>
      rw [mode] at goes
      obtain ⟨rfl, -⟩ := Attempt.trace_pure.1 goes
      exact iff_of_false (fun some_ => some_ rfl) fun first => first.mode mode
    | some m =>
      rw [mode] at goes
      obtain ⟨number, counts, -⟩ := Attempt.trace_bind_pure.1 goes
      rw [countRows_ne_nil_iff counts]
      refine ⟨fun written => ⟨both.1, both.2, ?_, written⟩, CountsFirst.compiles⟩
      rw [mode]
      nofun
  · next neither =>
    obtain ⟨rfl, -⟩ := Attempt.trace_pure.1 goes
    exact iff_of_false (fun some_ => some_ rfl) fun first => neither ⟨first.accepted, first.selects⟩

/-! Runs -/

section Clients

variable {e : Executor σ} {c : Client (σ × List Script.Record)}

/-- If a run ends with a validation error that its executor has not reported, then neither a main
statement nor a lookup was sent. What may have been sent are the foreign keys and, for a select that
is counted first, its counts; and these have all succeeded. -/
theorem run_refused (recorded : c.executor = e.recorded)
    (free : ∀ id, c.graphs.isRunning id = false) (never : e.NeverRefuses) {one : Bool}
    {t : Job (Outcome α)} {finish : Except Error Yield → Outcome α}
    (ending : q.Ending c.config one t finish) {outcome : Outcome α} {fault : Fault}
    (ends : (c.run t).2 = some outcome) (failed : outcome.error = some fault)
    (refused : fault.code = some Error.invalidCode) :
    ∃ counts loads result, outcome = finish result ∧
      q.Ran e c (c.run t).1 counts loads [] [] result ∧
      (∀ x ∈ counts ++ loads, x.error? = none) ∧ (counts ≠ [] ↔ q.CountsFirst c.config) := by
  obtain ⟨counts, loads, mains, relations, result, gives, ran⟩ := ran_of_run recorded free ending
  obtain rfl : finish result = outcome := Option.some.inj (gives.symm.trans ends)
  obtain ⟨f, rfl, code⟩ : ∃ f, result = .error f ∧ f.code = Error.invalidCode := by
    cases result with
    | ok y =>
      obtain ⟨-, n, rfl⟩ := ending.fault_of_ok failed
      rw [Fault.code_ofError] at refused
      simpa using Error.cases_of_invalidCode (Option.some.inj refused)
    | error f =>
      rw [ending.of_error] at failed
      obtain rfl : Fault.ofError f = fault := Option.some.inj failed
      exact ⟨f, rfl, Option.some.inj ((Fault.code_ofError f).symm.trans refused)⟩
  have answered : ∀ x ∈ counts ++ loads ++ mains, x.error? = none := by
    intro x member
    cases error : x.error? with
    | none => rfl
    | some g =>
      have same : f = g := Except.error.inj (ran.course.stops.result x member g error)
      have answers := ran.answers x (List.mem_append_left _ member)
      exact absurd (same ▸ code) (never.code_ne answers error)
  obtain rfl : mains = [] := by
    refine List.eq_nil_iff_forall_not_mem.2 fun x member => ?_
    obtain ⟨y, ok⟩ := ran.course.succeeds x member (answered x (List.mem_append_right _ member))
    cases ok
  obtain rfl : relations = [] := ran.course.main.relations_eq_nil fun _ member =>
    absurd member List.not_mem_nil
  rw [List.append_nil] at answered
  obtain ⟨n, counted, -⟩ := ran.course.counted
  exact ⟨counts, loads, .error f, rfl, ran, answered, counts_ne_nil_iff counted⟩

end Clients

/-- Every statement finds one row with the number three. -/
def threeGames : Backend where
  query _ := .ok [[("count", .int 3)]]
  execute _ := .ok 0
  batch _ := .ok ()
  graph := .ok []

/-- Games by a column whose name is none, and how many there are. -/
def oddlyCounted : Query :=
  (ofTable "games").selectWith "bad column!" (some .exact) false

def oddColumn : Invalid :=
  .selectColumn "bad column!" (.character ' ' "bad column!")

theorem value_attempt_oddlyCounted :
    (oddlyCounted.attempt .standard).run.value threeGames = .error (.invalid oddColumn) := by
  have counts : (oddlyCounted.counts .standard).run.value threeGames = .ok (some 3) := by
    decide +kernel
  have fetch : (oddlyCounted.fetch .standard "bad column!").run.value threeGames =
      .error (.invalid oddColumn) := by decide +kernel
  have fetched : oddlyCounted.fetched? = some "bad column!" := rfl
  obtain ⟨⟨count, value⟩, -⟩ := attempt_of_fetched rfl fetched fun _ => ⟨some 3, counts⟩
  rw [value, fetch]
  rfl

/-- The games are counted, and then nothing else is sent. -/
theorem oddlyCounted_refused :
    let e := threeGames.executor
    let c : Client (Unit × List Script.Record) :=
      { Client.create .standard e.recorded ((), []) with
        graphs := { GraphCache.empty with cached := some [] } }
    let t := oddlyCounted.execute .standard
    let fault : Fault := .ofError (.invalid oddColumn)
    c.executor = e.recorded ∧ (∀ id, c.graphs.isRunning id = false) ∧ e.NeverRefuses ∧
    oddlyCounted.Ending .standard false t allRows ∧ (c.run t).2 = some (.fail fault) ∧
    (Outcome.fail fault : Outcome (List Row)).error = some fault ∧
    fault.code = some Error.invalidCode ∧
    ∃ counts loads result, .fail fault = allRows result ∧ counts ≠ [] ∧
      oddlyCounted.Ran e c (c.run t).1 counts loads [] [] result ∧
      ∀ x ∈ counts ++ loads, x.error? = none := by
  intro e c t fault
  have free : ∀ id, c.graphs.isRunning id = false := fun _ => rfl
  have never : e.NeverRefuses := ⟨nofun, nofun, nofun⟩
  have ending : oddlyCounted.Ending c.config false t allRows := .execute
  have gives : ∀ r, c.Gives threeGames r := by
    intro r
    cases r with
    | query | execute | batch => exact fun _ => rfl
    | graph => exact ⟨[], rfl, rfl⟩
  have ends : (c.run t).2 = some (.fail fault) := (ends_of_value gives value_attempt_oddlyCounted).1
  have code : fault.code = some Error.invalidCode := Fault.code_ofError _
  have first : oddlyCounted.CountsFirst c.config :=
    ⟨rfl, rfl, nofun, ⟨"SELECT COUNT(*) AS \"count\" FROM \"games\"", []⟩, by decide +kernel⟩
  obtain ⟨counts, loads, result, same, ran, answered, counted⟩ :=
    run_refused rfl free never ending ends rfl code
  exact ⟨rfl, free, never, ending, ends, rfl, code, counts, loads, result, same, counted.2 first,
    ran, answered⟩

end Query

end FluentQuery
