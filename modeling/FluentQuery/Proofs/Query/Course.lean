import FluentQuery.Proofs.Client.Recorded
import FluentQuery.Proofs.Relation.Fetches

/-! The course of a run. Whatever the query, the configuration and the answers are, the statements
of one run come in four stages: those that count, the one that loads the foreign keys, the main
statement, and those for related rows. Before the last stage the first error ends the run and is its
result; after it the run cannot fail. -/
namespace FluentQuery

/-! First errors -/

/-- Nothing follows an error, and the error is the result. -/
structure Stops {α : Type} (asked : List Exchange) (result : Except Error α) : Prop where
  unbroken : Exchange.Unbroken asked
  result : ∀ x ∈ asked, ∀ e, x.error? = some e → result = .error e

namespace Stops

variable {α β : Type} {front back : List Exchange} {result : Except Error β}

theorem nil (result : Except Error β) : Stops [] result :=
  ⟨Exchange.unbroken_nil, List.forall_mem_nil _⟩

theorem failed {e : Error} (stops : Stops front (.error e : Except Error α)) :
    Stops front (.error e : Except Error β) :=
  ⟨stops.unbroken, fun x member f error => congrArg Except.error
    (Except.error.inj (stops.result x member f error))⟩

theorem map (f : α → β) {r : Except Error α} (stops : Stops front r) : Stops front (r.map f) := by
  refine ⟨stops.unbroken, fun x member e error => ?_⟩
  rw [stops.result x member e error]
  rfl

/-- After a success nothing has failed. -/
theorem answered {v : α} (stops : Stops front (.ok v)) : ∀ x ∈ front, x.error? = none := by
  intro x member
  cases error : x.error? with
  | none => rfl
  | some e => cases stops.result x member e error

theorem of_answered (answered : ∀ x ∈ front, x.error? = none) (result : Except Error β) :
    Stops front result := by
  refine ⟨Exchange.unbroken_of_answered answered, fun x member e error => ?_⟩
  cases (answered x member).symm.trans error

theorem prepend (answered : ∀ x ∈ front, x.error? = none) (rest : Stops back result) :
    Stops (front ++ back) result := by
  refine ⟨rest.unbroken.prepend answered, fun x member e error => ?_⟩
  obtain early | late := List.mem_append.1 member
  · cases (answered x early).symm.trans error
  · exact rest.result x late e error

theorem singleton {request : Request} {answer : Except Error request.Answer}
    (failing : ∀ e, answer = .error e → result = .error e) : Stops [⟨request, answer⟩] result := by
  refine ⟨Exchange.unbroken_singleton _, List.forall_mem_singleton.2 fun e error => failing e ?_⟩
  cases answer with
  | ok value => cases error
  | error f => cases error; rfl

theorem error (request : Request) (e : Error) :
    Stops [⟨request, .error e⟩] (.error e : Except Error β) :=
  singleton fun _ same => congrArg Except.error (Except.error.inj same)

end Stops

namespace Query

variable {config : Config} {q : Query} {trace : List Exchange}

/-! Counts -/

/-- Counting statements, the first of these, each of which could be written. -/
structure Counting {α : Type} (made : List (Except Invalid Statement)) (asked : List Exchange)
    (result : Except Error α) : Prop where
  sent : ∃ statements : List Statement,
    asked.map Exchange.request = statements.map (.query .count) ∧ statements.map .ok <+: made
  stops : Stops asked result

theorem Counting.none {α : Type} (made : List (Except Invalid Statement))
    (result : Except Error α) : Counting made [] result :=
  ⟨⟨[], rfl, List.nil_prefix⟩, .nil result⟩

/-- One counting statement and the number in its answer. -/
theorem trace_number {made : Except Invalid Statement} {read : List Row → Except Error Int}
    {result : Except Error Int}
    (goes : (do
      let s ← Attempt.valid made
      let rows ← Attempt.query .count s
      MonadExcept.ofExcept (read rows) : Attempt Int).run.Trace trace result) :
    (∃ cause, made = .error cause ∧ trace = [] ∧ result = .error (.invalid cause)) ∨
      ∃ s answer, made = .ok s ∧ trace = [⟨.query .count s, answer⟩] ∧
        result = answer >>= read := by
  obtain ⟨cause, stuck, rfl, rfl⟩ | ⟨s, written, goes⟩ := Attempt.trace_valid_bind.1 goes
  · exact .inl ⟨cause, stuck, rfl, rfl⟩
  · obtain ⟨e, rfl, rfl⟩ | ⟨rows, _, rfl, reads⟩ := Attempt.trace_ask_bind.1 goes
    · exact .inr ⟨s, .error e, written, rfl, rfl⟩
    · obtain ⟨rfl, rfl⟩ := Attempt.trace_ofExcept.1 reads
      exact .inr ⟨s, .ok rows, written, rfl, rfl⟩

theorem counting_number {made : Except Invalid Statement} {read : List Row → Except Error Int}
    {result : Except Error Int}
    (goes : (do
      let s ← Attempt.valid made
      let rows ← Attempt.query .count s
      MonadExcept.ofExcept (read rows) : Attempt Int).run.Trace trace result) :
    Counting [made] trace result ∧ (trace = [] → ∃ e, result = .error e) := by
  obtain ⟨cause, -, rfl, rfl⟩ | ⟨s, answer, rfl, rfl, rfl⟩ := trace_number goes
  · exact ⟨.none _ _, fun _ => ⟨_, rfl⟩⟩
  · refine ⟨⟨⟨[s], rfl, List.prefix_refl _⟩, .singleton fun e failed => ?_⟩, nofun⟩
    rw [failed]
    rfl

/-- The statements for a mode, in the order in which they may be sent. -/
def countingsFor (config : Config) (q : Query) : CountMode → List (Except Invalid Statement)
  | .exact => [q.countStatement config.searchConfig]
  | .planned => [q.planStatement config.searchConfig]
  | .estimated => [q.planStatement config.searchConfig, q.countStatement config.searchConfig]

theorem counting_countRows {mode : CountMode} {result : Except Error Int}
    (goes : (q.countRows config mode).run.Trace trace result) :
    Counting (q.countingsFor config mode) trace result := by
  cases mode with
  | exact => exact (counting_number goes).1
  | planned => exact (counting_number goes).1
  | estimated =>
    obtain ⟨e, estimates, rfl⟩ | ⟨front, n, back, estimates, rfl, exactly⟩ :=
      Attempt.trace_bind.1 goes
    · obtain ⟨⟨⟨statements, asked, listed⟩, stops⟩, -⟩ := counting_number estimates
      exact ⟨⟨statements, asked, listed.trans (List.prefix_append [_] [_])⟩, stops⟩
    · obtain ⟨_, -, -, ⟨⟩⟩ | ⟨s, answer, planned, rfl, read⟩ := trace_number estimates
      have first := (counting_number estimates).1.stops
      split at exactly
      · obtain ⟨⟨⟨statements, asked, listed⟩, stops⟩, -⟩ := counting_number exactly
        refine ⟨⟨s :: statements, congrArg (List.cons _) asked, ?_⟩, stops.prepend first.answered⟩
        exact List.cons_prefix_cons.2 ⟨planned.symm, listed⟩
      · obtain ⟨rfl, rfl⟩ := Attempt.trace_pure.1 exactly
        refine ⟨⟨[s], rfl, ?_⟩, .of_answered first.answered _⟩
        exact List.cons_prefix_cons.2 ⟨planned.symm, List.nil_prefix⟩

/-- The statements that count for a query: only a select counts, and only in some mode. -/
def countings (config : Config) (q : Query) : List (Except Invalid Statement) :=
  if q.action.isMutation then [] else (q.count.map (q.countingsFor config)).getD []

theorem counting_counts {result : Except Error (Option Int)} (selects : q.action.isMutation = false)
    (goes : (q.counts config).run.Trace trace result) :
    Counting (q.countings config) trace result := by
  rw [countings, selects, if_neg Bool.false_ne_true]
  unfold counts at goes
  cases counted : q.count with
  | none =>
    rw [counted] at goes
    obtain ⟨rfl, rfl⟩ := Attempt.trace_pure.1 goes
    exact .none _ _
  | some mode =>
    rw [counted] at goes
    obtain ⟨n, counts, rfl⟩ := Attempt.trace_bind_pure.1 goes
    have counting := counting_countRows counts
    exact ⟨counting.sent, counting.stops.map _⟩

/-! Main statements -/

/-- The rows of the query hold references. -/
def Refers (q : Query) : Prop :=
  ∃ columns, q.fetched? = some columns ∧ (Selection.parse columns).references ≠ []

/-- What a main statement that returns rows is made of: the select list, and the foreign keys if it
holds references. -/
structure Prepared (config : Config) (q : Query) (loads : List Exchange) (columns : Text)
    (g : Graph) (source : Text) (p : Projection) (main : Statement) : Prop where
  fetched : q.fetched? = some columns
  known : (Selection.parse columns).references = [] ∧ loads = [] ∨
    (Selection.parse columns).references ≠ [] ∧ loads = [⟨.graph, .ok g⟩] ∧
      q.sourceTable = .ok source
  made : Projection.make (Selection.parse columns)
    (required config (Selection.parse columns) g source) = .ok p
  written : q.mainStatement config.searchConfig (some p.sql) = .ok main

/-- No main statement, or one, and what follows it: after rows, their references. -/
inductive Main (config : Config) (q : Query) (loads : List Exchange) :
    List Exchange → List Exchange → Prop where
  | none : Main config q loads [] []
  | changing {main : Statement} {answer : Except Error Nat} (mutates : q.action.isMutation = true)
      (unread : q.columns = none)
      (written : q.mainStatement config.searchConfig Option.none = .ok main) :
      Main config q loads [⟨.execute q.kind main, answer⟩] []
  | failing {columns source : Text} {g : Graph} {p : Projection} {main : Statement} {e : Error}
      (prepared : q.Prepared config loads columns g source p main) :
      Main config q loads [⟨.query q.kind main, .error e⟩] []
  | fetching {columns source : Text} {g : Graph} {p : Projection} {main : Statement}
      {rows final : List Row} {relations : List Exchange}
      (prepared : q.Prepared config loads columns g source p main)
      (follows : (Relation.resolve (q.relations config (Selection.parse columns) g source p)
        p.added rows).Trace relations final) :
      Main config q loads [⟨.query q.kind main, .ok rows⟩] relations

/-- The end of a run, after its counts. -/
structure Ended {α : Type} (config : Config) (q : Query) (loads mains relations : List Exchange)
    (result : Except Error α) : Prop where
  loaded : loads = [] ∨ q.Refers ∧ ∃ answer, loads = [⟨.graph, answer⟩]
  main : q.Main config loads mains relations
  stops : Stops (loads ++ mains) result
  succeeds : ∀ x ∈ mains, x.error? = none → ∃ v, result = .ok v

variable {loads : List Exchange}

/-- Nothing is sent after the foreign keys. -/
theorem Ended.unsent {α : Type} {result : Except Error α}
    (loaded : loads = [] ∨ q.Refers ∧ ∃ answer, loads = [⟨.graph, answer⟩])
    (stops : Stops loads result) : q.Ended config loads [] [] result :=
  ⟨loaded, .none, (List.append_nil loads).symm ▸ stops, List.forall_mem_nil _⟩

theorem ended_of_fetchAlong {columns source : Text} {g : Graph} {result : Except Error (List Row)}
    (fetched : q.fetched? = some columns)
    (known : (Selection.parse columns).references = [] ∧ loads = [] ∨
      (Selection.parse columns).references ≠ [] ∧ loads = [⟨.graph, .ok g⟩] ∧
        q.sourceTable = .ok source)
    (goes : (q.fetchAlong config (Selection.parse columns) g source).run.Trace trace result) :
    ∃ mains relations, trace = mains ++ relations ∧
      q.Ended config loads mains relations result := by
  have loaded : loads = [] ∨ q.Refers ∧ ∃ answer, loads = [⟨.graph, answer⟩] :=
    known.imp (·.2) fun loading => ⟨⟨columns, fetched, loading.1⟩, _, loading.2.1⟩
  have answered : ∀ x ∈ loads, x.error? = none := by
    obtain ⟨-, rfl⟩ | ⟨-, rfl, -⟩ := known
    · exact List.forall_mem_nil _
    · exact List.forall_mem_singleton.2 rfl
  rw [fetchAlong, Attempt.trace_reportAll_bind] at goes
  obtain ⟨cause, -, rfl, rfl⟩ | ⟨p, made, goes⟩ := Attempt.trace_valid_bind.1 goes
  · exact ⟨[], [], rfl, .unsent loaded (.of_answered answered _)⟩
  · obtain ⟨cause, -, rfl, rfl⟩ | ⟨main, written, goes⟩ := Attempt.trace_valid_bind.1 goes
    · exact ⟨[], [], rfl, .unsent loaded (.of_answered answered _)⟩
    · have prepared : q.Prepared config loads columns g source p main :=
        ⟨fetched, known, made, written⟩
      obtain ⟨e, rfl, rfl⟩ | ⟨rows, relations, rfl, follows⟩ := Attempt.trace_ask_bind.1 goes
      · refine ⟨_, [], (List.append_nil _).symm, loaded, .failing prepared, ?_, ?_⟩
        · exact .prepend answered (.error _ e)
        · refine List.forall_mem_singleton.2 fun succeeded => ?_
          cases succeeded
      · obtain ⟨final, runs, rfl⟩ := Attempt.trace_lift.1 follows
        refine ⟨[_], relations, rfl, loaded, .fetching prepared runs, ?_, ?_⟩
        · exact .prepend answered (.of_answered (List.forall_mem_singleton.2 rfl) _)
        · exact List.forall_mem_singleton.2 fun _ => ⟨final, rfl⟩

theorem ended_of_fetch {columns : Text} {result : Except Error (List Row)}
    (fetched : q.fetched? = some columns) (goes : (q.fetch config columns).run.Trace trace result) :
    ∃ loads mains relations, trace = loads ++ mains ++ relations ∧
      q.Ended config loads mains relations result := by
  simp only [fetch] at goes
  split at goes
  · next empty =>
    obtain ⟨mains, relations, rfl, ended⟩ :=
      ended_of_fetchAlong fetched (.inl ⟨List.isEmpty_iff.1 empty, rfl⟩) goes
    exact ⟨[], mains, relations, rfl, ended⟩
  · next filled =>
    have refers : (Selection.parse columns).references ≠ [] := mt List.isEmpty_iff.2 filled
    have loaded (answer : Except Error Graph) : ([⟨.graph, answer⟩] : List Exchange) = [] ∨
        q.Refers ∧ ∃ other, ([⟨.graph, answer⟩] : List Exchange) = [⟨.graph, other⟩] :=
      .inr ⟨⟨columns, fetched, refers⟩, answer, rfl⟩
    obtain ⟨e, rfl, rfl⟩ | ⟨g, back, rfl, next⟩ := Attempt.trace_ask_bind.1 goes
    · exact ⟨_, [], [], rfl, .unsent (loaded _) (.error _ e)⟩
    · obtain ⟨cause, -, rfl, rfl⟩ | ⟨source, named, fetches⟩ := Attempt.trace_valid_bind.1 next
      · exact ⟨_, [], [], rfl,
          .unsent (loaded _) (.of_answered (List.forall_mem_singleton.2 rfl) _)⟩
      · obtain ⟨mains, relations, rfl, ended⟩ :=
          ended_of_fetchAlong fetched (.inr ⟨refers, rfl, named⟩) fetches
        exact ⟨[_], mains, relations, rfl, ended⟩

/-! Whole runs -/

section

variable {α β : Type} {mains relations : List Exchange}

theorem Ended.map {result : Except Error α} (ended : q.Ended config loads mains relations result)
    (f : α → β) : q.Ended config loads mains relations (result.map f) := by
  refine ⟨ended.loaded, ended.main, ended.stops.map f, fun x member answered => ?_⟩
  obtain ⟨v, rfl⟩ := ended.succeeds x member answered
  exact ⟨f v, rfl⟩

theorem Main.eq_singleton (main : q.Main config loads mains relations) {x : Exchange}
    (member : x ∈ mains) : mains = [x] := by
  cases main with
  | none => cases member
  | changing | failing | fetching => rw [List.mem_singleton.1 member]

/-- Nothing is followed unless the main statement has succeeded. -/
theorem Main.relations_eq_nil (main : q.Main config loads mains relations)
    (failing : ∀ x ∈ mains, ∃ e, x.error? = some e) : relations = [] := by
  cases main with
  | none | changing | failing => rfl
  | fetching =>
    obtain ⟨e, failed⟩ := failing _ (List.mem_singleton_self _)
    cases failed

/-- Only rows have references to follow, and following them asks for nothing but lookups. -/
theorem Main.related (main : q.Main config loads mains relations) :
    ∀ x ∈ relations, ∃ l keys, x.request = .query .relation (Lookup.statement l keys) := by
  cases main with
  | none | changing | failing => exact List.forall_mem_nil _
  | fetching prepared follows =>
    obtain ⟨marked, rfl, tree⟩ := Relation.follows_of_resolve follows
    intro x member
    obtain ⟨y, among, rfl⟩ := List.mem_map.1 member
    exact tree.lookup among

end

/-- What is counted: nothing for a query that was refused, or that is no select. -/
def counted (config : Config) (q : Query) : Attempt (Option Int) :=
  if q.deferred = none ∧ q.action.isMutation = false then q.counts config else pure none

/-- The stages of a run, with all answers to them. -/
structure Course (config : Config) (q : Query) (counts loads mains relations : List Exchange)
    (result : Except Error Yield) : Prop where
  sent : ∃ statements : List Statement,
    counts.map Exchange.request = statements.map (.query .count) ∧
      statements.map .ok <+: q.countings config
  counted : ∃ n, (q.counted config).run.Trace counts n ∧
    ∀ e, n = .error e → loads = [] ∧ mains = [] ∧ result = .error e
  loaded : loads = [] ∨ q.Refers ∧ ∃ answer, loads = [⟨.graph, answer⟩]
  main : q.Main config loads mains relations
  related : ∀ x ∈ relations, ∃ l keys, x.request = .query .relation (Lookup.statement l keys)
  stops : Stops (counts ++ loads ++ mains) result
  succeeds : ∀ x ∈ mains, x.error? = none → ∃ y, result = .ok y

variable {result : Except Error Yield}

/-- After its counts, a run goes on to its end. -/
theorem Ended.course {counts mains relations : List Exchange} {n : Option Int}
    (ended : q.Ended config loads mains relations result)
    (counting : Counting (q.countings config) counts (.ok n : Except Error (Option Int)))
    (goes : (q.counted config).run.Trace counts (.ok n)) :
    q.Course config counts loads mains relations result where
  sent := counting.sent
  counted := ⟨.ok n, goes, nofun⟩
  loaded := ended.loaded
  main := ended.main
  related := ended.main.related
  stops := by
    rw [List.append_assoc]
    exact ended.stops.prepend counting.stops.answered
  succeeds := ended.succeeds

/-- A run without counts is its end. -/
theorem Ended.course_of_uncounted {mains relations : List Exchange}
    (ended : q.Ended config loads mains relations result)
    (uncounted : ¬ (q.deferred = none ∧ q.action.isMutation = false)) :
    q.Course config [] loads mains relations result := by
  have silent : (q.counted config).run.Trace [] (.ok none) := by
    rw [counted, if_neg uncounted]
    exact ⟨rfl, rfl⟩
  exact ended.course (.none _ _) silent

theorem ended_of_runMutation (mutates : q.action.isMutation = true)
    (goes : (q.runMutation config).run.Trace trace result) : ∃ loads mains relations,
      trace = loads ++ mains ++ relations ∧ q.Ended config loads mains relations result := by
  unfold runMutation at goes
  split at goes
  · obtain ⟨rfl, rfl⟩ := Attempt.trace_pure.1 goes
    exact ⟨[], [], [], rfl, .unsent (.inl rfl) (.nil _)⟩
  · next writes =>
    split at goes
    · next columns listed =>
      have fetched : q.fetched? = some columns := by
        rw [fetched?, if_pos mutates, if_neg writes, listed]
      obtain ⟨rows, fetch, rfl⟩ := Attempt.trace_bind_pure.1 goes
      obtain ⟨loads, mains, relations, rfl, ended⟩ := ended_of_fetch fetched fetch
      exact ⟨loads, mains, relations, rfl, ended.map _⟩
    · next unread =>
      obtain ⟨cause, -, rfl, rfl⟩ | ⟨main, written, next⟩ := Attempt.trace_valid_bind.1 goes
      · exact ⟨[], [], [], rfl, .unsent (.inl rfl) (.nil _)⟩
      · obtain ⟨e, rfl, rfl⟩ | ⟨affected, _, rfl, last⟩ := Attempt.trace_ask_bind.1 next
        · refine ⟨[], _, [], (List.append_nil _).symm, .inl rfl,
            .changing mutates unread written, .error _ e, ?_⟩
          exact List.forall_mem_singleton.2 nofun
        · obtain ⟨rfl, rfl⟩ := Attempt.trace_pure.1 last
          refine ⟨[], _, [], rfl, .inl rfl, .changing mutates unread written,
            .singleton nofun, ?_⟩
          exact List.forall_mem_singleton.2 fun _ => ⟨_, rfl⟩

theorem course_of_runSelect (accepted : q.deferred = none) (selects : q.action.isMutation = false)
    (goes : (q.runSelect config).run.Trace trace result) : ∃ counts loads mains relations,
      trace = counts ++ loads ++ mains ++ relations ∧
        q.Course config counts loads mains relations result := by
  have counts_eq : q.counted config = q.counts config := if_pos ⟨accepted, selects⟩
  unfold runSelect at goes
  obtain ⟨e, counts, rfl⟩ | ⟨counts, n, back, ran, rfl, next⟩ := Attempt.trace_bind.1 goes
  · have counting := counting_counts selects counts
    refine ⟨trace, [], [], [], by simp, counting.sent, ⟨.error e, counts_eq ▸ counts, ?_⟩, .inl rfl,
      .none, List.forall_mem_nil _, ?_, List.forall_mem_nil _⟩
    · rintro _ ⟨⟩
      exact ⟨rfl, rfl, rfl⟩
    · simpa using counting.stops.failed
  · have counting := counting_counts selects ran
    have counted_ : (q.counted config).run.Trace counts (.ok n) := by
      rw [counts_eq]
      exact ran
    split at next
    · obtain ⟨rfl, rfl⟩ := Attempt.trace_pure.1 next
      exact ⟨counts, [], [], [], by simp,
        Ended.course (.unsent (.inl rfl) (.nil _)) counting counted_⟩
    · next heads =>
      have fetched : q.fetched? = some (q.columns.getD ['*']) := by
        rw [fetched?, selects, if_neg Bool.false_ne_true, if_neg heads]
      obtain ⟨rows, fetch, rfl⟩ := Attempt.trace_bind_pure.1 next
      obtain ⟨loads, mains, relations, rfl, ended⟩ := ended_of_fetch fetched fetch
      exact ⟨counts, loads, mains, relations, by simp, (ended.map _).course counting counted_⟩

theorem course_of_perform (goes : (q.perform config).Trace trace result) :
    ∃ counts loads mains relations, trace = counts ++ loads ++ mains ++ relations ∧
      q.Course config counts loads mains relations result := by
  rw [perform, Job.trace_reportAll_bind, attempt] at goes
  split at goes
  · next e refused =>
    obtain ⟨rfl, rfl⟩ := Attempt.trace_throw.1 goes
    refine ⟨[], [], [], [], rfl, Ended.course_of_uncounted (.unsent (.inl rfl) (.nil _)) ?_⟩
    simp [refused]
  · next accepted =>
    split at goes
    · next mutates =>
      obtain ⟨loads, mains, relations, rfl, ended⟩ := ended_of_runMutation mutates goes
      refine ⟨[], loads, mains, relations, rfl, ended.course_of_uncounted ?_⟩
      simp [mutates]
    · next selects => exact course_of_runSelect accepted (by simpa using selects) goes

/-! Endings -/

/-- The calls that run a query, each with whether it asks for one row, and with what it makes of the
result. -/
inductive Ending (config : Config) (q : Query) :
    {α : Type} → Bool → Job (Outcome α) → (Except Error Yield → Outcome α) → Prop where
  | execute : Ending config q false (q.execute config) allRows
  | single : Ending config q true (q.single config) (oneRow false)
  | maybeSingle : Ending config q true (q.maybeSingle config) (oneRow true)

namespace Ending

variable {α : Type} {one : Bool} {t : Job (Outcome α)} {finish : Except Error Yield → Outcome α}

theorem perform_of_trace (ending : q.Ending config one t finish) {outcome : Outcome α}
    (goes : t.Trace trace outcome) :
    ∃ result, (q.perform config).Trace trace result ∧ outcome = finish result := by
  cases ending <;> exact Job.trace_map.1 goes

theorem of_error (ending : q.Ending config one t finish) (e : Error) :
    finish (.error e) = .ofError e := by
  cases ending <;> rfl

/-- A result without an error can only have the wrong number of rows for one. -/
theorem fault_of_ok (ending : q.Ending config one t finish) {y : Yield} {fault : Fault}
    (failed : (finish (.ok y)).error = some fault) :
    one = true ∧ ∃ n, fault = .ofError (.cardinality n) := by
  have single (orNone : Bool) (failed : (oneRow orNone (.ok y)).error = some fault) :
      ∃ n, fault = .ofError (.cardinality n) := by
    simp only [oneRow] at failed
    split at failed
    · cases failed
    · cases failed
    · next rows _ _ =>
      split at failed
      · cases failed
      · exact ⟨rows.length, (Option.some.inj failed).symm⟩
  cases ending with
  | execute => cases failed
  | single => exact ⟨rfl, single false failed⟩
  | maybeSingle => exact ⟨rfl, single true failed⟩

end Ending

section Clients

variable {σ α : Type} {e : Executor σ} {c : Client (σ × List Script.Record)}

/-- From one client to the other a query has run: the statements of its stages are what was sent,
and the executor may give those answers. A statement for the foreign keys is sent only if none are
kept. -/
structure Ran (e : Executor σ) (c d : Client (σ × List Script.Record)) (q : Query)
    (counts loads mains relations : List Exchange) (result : Except Error Yield) : Prop where
  sent : ∃ counting loading main related : List Script.Record,
    c.Sent d (counting ++ loading ++ main ++ related) ∧
    Sends c.config (c.graphs.cached = none) (counts.map Exchange.request) counting ∧
    Sends c.config (c.graphs.cached = none) (loads.map Exchange.request) loading ∧
    Sends c.config (c.graphs.cached = none) (mains.map Exchange.request) main ∧
    Sends c.config (c.graphs.cached = none) (relations.map Exchange.request) related
  answers : ∀ x ∈ counts ++ loads ++ mains ++ relations,
    e.Answers c.config.timeout x.request x.answer
  course : q.Course c.config counts loads mains relations result

/-- Every run of a query alone ends, and goes through its stages in order. -/
theorem ran_of_run (recorded : c.executor = e.recorded)
    (free : ∀ id, c.graphs.isRunning id = false) {one : Bool} {t : Job (Outcome α)}
    {finish : Except Error Yield → Outcome α} (ending : q.Ending c.config one t finish) :
    ∃ counts loads mains relations result, (c.run t).2 = some (finish result) ∧
      q.Ran e c (c.run t).1 counts loads mains relations result := by
  obtain ⟨trace, outcome, ends, goes, answers, records, sent, sends⟩ :=
    Client.run_recorded recorded free t
  obtain ⟨result, performs, rfl⟩ := ending.perform_of_trace goes
  obtain ⟨counts, loads, mains, relations, rfl, course⟩ := course_of_perform performs
  refine ⟨counts, loads, mains, relations, result, ends, ?_, answers, course⟩
  rw [List.map_append] at sends
  obtain ⟨others, related, rfl, sends, last⟩ := sends.split
  rw [List.map_append] at sends
  obtain ⟨others, main, rfl, sends, third⟩ := sends.split
  rw [List.map_append] at sends
  obtain ⟨counting, loading, rfl, first, second⟩ := sends.split
  exact ⟨counting, loading, main, related, sent, first, second, third, last⟩

/-- The statements of a run are, in this order: counting statements, the estimate before the number;
the one for the foreign keys, at most, if the rows hold references and no keys are kept; one main
statement at most; and lookups of related rows. The first error before the lookups is the outcome,
and nothing follows it. Once the main statement has succeeded, only a wrong number of rows for one
is an error. -/
theorem run_in_stages (recorded : c.executor = e.recorded)
    (free : ∀ id, c.graphs.isRunning id = false) {one : Bool} {t : Job (Outcome α)}
    {finish : Except Error Yield → Outcome α} (ending : q.Ending c.config one t finish) :
    ∃ counts loads mains relations result, (c.run t).2 = some (finish result) ∧
      q.Ran e c (c.run t).1 counts loads mains relations result ∧
      (∀ x ∈ counts ++ loads ++ mains, ∀ f, x.error? = some f →
        (counts ++ loads ++ mains ++ relations).getLast? = some x ∧
          finish result = .ofError f) ∧
      ∀ x ∈ mains, x.error? = none → ∀ fault, (finish result).error = some fault →
        one = true ∧ ∃ n, fault = .ofError (.cardinality n) := by
  obtain ⟨counts, loads, mains, relations, result, ends, ran⟩ := ran_of_run recorded free ending
  refine ⟨counts, loads, mains, relations, result, ends, ran, ?_, ?_⟩
  · intro x member f failed
    have stops := ran.course.stops
    refine ⟨?_, ?_⟩
    · have last := stops.unbroken.getLast?_eq member failed
      rw [ran.course.main.relations_eq_nil fun y main => ?_, List.append_nil, last]
      rw [ran.course.main.eq_singleton main] at last
      obtain rfl : y = x := by simpa using last
      exact ⟨f, failed⟩
    · rw [stops.result x member f failed, ending.of_error]
  · intro x member answered fault failed
    obtain ⟨y, rfl⟩ := ran.course.succeeds x member answered
    exact ending.fault_of_ok failed

end Clients

/-- Posts with their authors, and how many there are. -/
def countedPosts : Query :=
  (ofTable "posts").selectWith "title, author:profiles(username)" (some .exact) false

theorem countedPosts_in_stages :
    let e := (onePost posts).executor
    let c := Client.create .standard e.recorded ((), [])
    let t := countedPosts.single .standard
    c.executor = e.recorded ∧ (∀ id, c.graphs.isRunning id = false) ∧
    countedPosts.Ending .standard true t (oneRow false) ∧
    ∃ counts loads mains relations result, (c.run t).2 = some (oneRow false result) ∧
      countedPosts.Ran e c (c.run t).1 counts loads mains relations result ∧
      (∀ x ∈ counts ++ loads ++ mains, ∀ f, x.error? = some f →
        (counts ++ loads ++ mains ++ relations).getLast? = some x ∧
          oneRow false result = .ofError f) ∧
      ∀ x ∈ mains, x.error? = none → ∀ fault, (oneRow false result).error = some fault →
        true = true ∧ ∃ n, fault = .ofError (.cardinality n) := by
  intro e c t
  have free : ∀ id, c.graphs.isRunning id = false := fun _ => rfl
  exact ⟨rfl, free, .single, run_in_stages rfl free .single⟩

end Query

end FluentQuery
