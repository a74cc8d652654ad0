import FluentQuery.Proofs.Query.Refused
import FluentQuery.Proofs.Relation.Dropped

/-! The count of a mutation. It is the number of rows that the statement has affected, less those
that a required reference drops from what is returned: so a write may be counted as none, as
`orphanedPost` shows. The number is read as signed, so that from 2 ^ 63 rows on it is another
one. -/
namespace FluentQuery.Query

variable {config : Config} {q : Query} {trace : List Exchange}

/-! Signed numbers -/

/-- A part of a number of rows is read as the whole number only if nothing is missing and the number
is not too large. -/
theorem signedCount_sub_eq_iff {n less : Nat} (part : less ≤ n) :
    signedCount ((n - less : Nat)) = n ↔ less = 0 ∧ n < 2 ^ 63 := by
  have positive : 0 < 2 ^ 64 := by norm_num
  unfold signedCount
  rw [Int.bmod_eq_iff positive]
  push_cast
  omega

/-! Rows of mutations -/

/-- Rows that have been fetched are those of a main statement, with its references followed. -/
theorem prepared_of_fetchAlong {columns source : Text} {g : Graph} {loads : List Exchange}
    {final : List Row} (fetched : q.fetched? = some columns)
    (known : (Selection.parse columns).references = [] ∧ loads = [] ∨
      (Selection.parse columns).references ≠ [] ∧ loads = [⟨.graph, .ok g⟩] ∧
        q.sourceTable = .ok source)
    (goes : (q.fetchAlong config (Selection.parse columns) g source).run.Trace trace (.ok final)) :
    ∃ p main rows related, q.Prepared config loads columns g source p main ∧
      trace = ⟨.query q.kind main, .ok rows⟩ :: related ∧
      (Relation.resolve (q.relations config (Selection.parse columns) g source p)
        p.added rows).Trace related final := by
  rw [fetchAlong, Attempt.trace_reportAll_bind] at goes
  obtain ⟨_, -, -, ⟨⟩⟩ | ⟨p, made, goes⟩ := Attempt.trace_valid_bind.1 goes
  obtain ⟨_, -, -, ⟨⟩⟩ | ⟨main, written, goes⟩ := Attempt.trace_valid_bind.1 goes
  obtain ⟨_, -, ⟨⟩⟩ | ⟨rows, related, rfl, follows⟩ := Attempt.trace_ask_bind.1 goes
  obtain ⟨_, runs, ⟨⟩⟩ := Attempt.trace_lift.1 follows
  exact ⟨p, main, rows, related, ⟨fetched, known, made, written⟩, rfl, runs⟩

theorem prepared_of_fetch {columns : Text} {final : List Row} (fetched : q.fetched? = some columns)
    (goes : (q.fetch config columns).run.Trace trace (.ok final)) :
    ∃ loads g source p main rows related, q.Prepared config loads columns g source p main ∧
      trace = loads ++ ⟨.query q.kind main, .ok rows⟩ :: related ∧
      (Relation.resolve (q.relations config (Selection.parse columns) g source p)
        p.added rows).Trace related final := by
  simp only [fetch] at goes
  split at goes
  · next empty =>
    obtain ⟨p, main, rows, related, prepared, rfl, follows⟩ :=
      prepared_of_fetchAlong fetched (.inl ⟨List.isEmpty_iff.1 empty, rfl⟩) goes
    exact ⟨[], [], [], p, main, rows, related, prepared, rfl, follows⟩
  · next filled =>
    obtain ⟨_, -, ⟨⟩⟩ | ⟨g, _, rfl, next⟩ := Attempt.trace_ask_bind.1 goes
    obtain ⟨_, -, -, ⟨⟩⟩ | ⟨source, named, fetches⟩ := Attempt.trace_valid_bind.1 next
    obtain ⟨p, main, rows, related, prepared, rfl, follows⟩ :=
      prepared_of_fetchAlong fetched (.inr ⟨mt List.isEmpty_iff.2 filled, rfl, named⟩) fetches
    exact ⟨_, g, source, p, main, rows, related, prepared, rfl, follows⟩

/-- What a mutation that succeeds has asked for, the number of rows that it has affected, and how
many of these its references have dropped. -/
inductive Affects (config : Config) (q : Query) : List Exchange → Nat → Nat → Prop where
  | nothing (writes : q.writesNothing = true) : Affects config q [] 0 0
  | counted {main : Statement} {affected : Nat} (unread : q.columns = none)
      (written : q.mainStatement config.searchConfig none = .ok main) :
      Affects config q [⟨.execute q.kind main, .ok affected⟩] affected 0
  | returned {loads related : List Exchange} {columns source : Text} {g : Graph} {p : Projection}
      {main : Statement} {rows : List Row} {given : List (Option (List Json))}
      (prepared : q.Prepared config loads columns g source p main)
      (follows : (Job.all (Relation.jobs
        (q.relations config (Selection.parse columns) g source p) rows)).Trace related given) :
      Affects config q (loads ++ ⟨.query q.kind main, .ok rows⟩ :: related) rows.length
        (Relation.dropped (q.relations config (Selection.parse columns) g source p) p.added rows
          given)

variable {affected dropped : Nat}

theorem Affects.dropped_le (affects : q.Affects config trace affected dropped) :
    dropped ≤ affected := by
  cases affects with
  | nothing | counted => exact Nat.zero_le _
  | returned prepared follows =>
    rw [← Relation.length_finish (Relation.complete_of_trace follows)]
    exact Nat.le_add_left ..

/-- Rows are dropped only for required references of the select list. -/
theorem Affects.dropped_eq_zero (affects : q.Affects config trace affected dropped)
    (optional : ∀ columns, q.fetched? = some columns →
      ∀ r ∈ (Selection.parse columns).references, r.inner = false) : dropped = 0 := by
  cases affects with
  | nothing | counted => rfl
  | returned prepared follows =>
    refine Relation.dropped_of_optional fun r member => ?_
    obtain ⟨reference, listed, rfl⟩ := List.mem_map.1 member
    rw [Relation.reference_build]
    exact optional _ prepared.fetched reference listed

theorem affects_of_runMutation (mutates : q.action.isMutation = true) {y : Yield}
    (goes : (q.runMutation config).run.Trace trace (.ok y)) :
    ∃ affected dropped, q.Affects config trace affected dropped ∧
      y.count = q.count.map fun _ => signedCount ((affected - dropped : Nat)) := by
  unfold runMutation at goes
  split at goes
  · next writes =>
    obtain ⟨rfl, ⟨⟩⟩ := Attempt.trace_pure.1 goes
    exact ⟨0, 0, .nothing writes, rfl⟩
  · next writes =>
    split at goes
    · next columns listed =>
      have fetched : q.fetched? = some columns := by
        rw [fetched?, if_pos mutates, if_neg writes, listed]
      obtain ⟨final | _, fetch, ⟨⟩⟩ := Attempt.trace_bind_pure.1 goes
      obtain ⟨loads, g, source, p, main, rows, related, prepared, rfl, follows⟩ :=
        prepared_of_fetch fetched fetch
      obtain ⟨_, given, _, runs, rfl, rfl, rfl⟩ := Job.trace_bind.1 follows
      rw [List.append_nil]
      refine ⟨_, _, .returned prepared runs, ?_⟩
      rw [← Relation.length_finish (Relation.complete_of_trace runs), Nat.add_sub_cancel]
    · next unread =>
      obtain ⟨_, -, -, ⟨⟩⟩ | ⟨main, written, next⟩ := Attempt.trace_valid_bind.1 goes
      obtain ⟨_, -, ⟨⟩⟩ | ⟨affected, _, rfl, last⟩ := Attempt.trace_ask_bind.1 next
      obtain ⟨rfl, ⟨⟩⟩ := Attempt.trace_pure.1 last
      exact ⟨affected, 0, .counted unread written, rfl⟩

theorem affects_of_perform (mutates : q.action.isMutation = true) {y : Yield}
    (goes : (q.perform config).Trace trace (.ok y)) :
    ∃ affected dropped, q.Affects config trace affected dropped ∧
      y.count = q.count.map fun _ => signedCount ((affected - dropped : Nat)) := by
  rw [perform, Job.trace_reportAll_bind, attempt] at goes
  split at goes
  · obtain ⟨-, ⟨⟩⟩ := Attempt.trace_throw.1 goes
  · rw [if_pos mutates] at goes
    exact affects_of_runMutation mutates goes

/-! Runs -/

section Clients

variable {σ α : Type}

/-- An ending without an error has the count of what the query has yielded. -/
theorem Ending.count_of_ok {one : Bool} {t : Job (Outcome α)}
    {finish : Except Error Yield → Outcome α} (ending : q.Ending config one t finish)
    {result : Except Error Yield} (succeeds : (finish result).error = none) :
    ∃ y, result = .ok y ∧ (finish result).count = y.count := by
  cases result with
  | error e =>
    rw [ending.of_error] at succeeds
    cases succeeds
  | ok y => exact ⟨y, rfl, by cases ending <;> rfl⟩

variable {e : Executor σ} {c : Client (σ × List Script.Record)}

/-- A mutation in a count mode that ends without an error reports the rows that it has affected,
less those that required references have dropped: the number of affected rows itself only if none
has been dropped and there are fewer than 2 ^ 63. Without a required reference none is dropped. -/
theorem run_counts_affected (recorded : c.executor = e.recorded)
    (free : ∀ id, c.graphs.isRunning id = false) (mutates : q.action.isMutation = true)
    (counts : q.count ≠ none) {one : Bool} {t : Job (Outcome α)}
    {finish : Except Error Yield → Outcome α} (ending : q.Ending c.config one t finish)
    {outcome : Outcome α} (ends : (c.run t).2 = some outcome) (succeeds : outcome.error = none) :
    ∃ trace records affected dropped, c.Sent (c.run t).1 records ∧
      Sends c.config (c.graphs.cached = none) (trace.map Exchange.request) records ∧
      (∀ x ∈ trace, e.Answers c.config.timeout x.request x.answer) ∧
      q.Affects c.config trace affected dropped ∧ dropped ≤ affected ∧
      outcome.count = some (signedCount ((affected - dropped : Nat))) ∧
      (outcome.count = some (affected : Int) ↔ dropped = 0 ∧ affected < 2 ^ 63) ∧
      ((∀ columns, q.columns = some columns →
        ∀ r ∈ (Selection.parse columns).references, r.inner = false) → dropped = 0) := by
  obtain ⟨trace, other, same, goes, answers, records, sent, sends⟩ :=
    Client.run_recorded recorded free t
  obtain rfl : other = outcome := Option.some.inj (same.symm.trans ends)
  obtain ⟨result, performs, rfl⟩ := ending.perform_of_trace goes
  obtain ⟨y, rfl, count⟩ := ending.count_of_ok succeeds
  obtain ⟨affected, dropped, affects, counted⟩ := affects_of_perform mutates performs
  obtain ⟨mode, some_⟩ := Option.ne_none_iff_exists'.1 counts
  rw [some_, Option.map_some] at counted
  have value := count.trans counted
  refine ⟨trace, records, affected, dropped, sent, sends, answers, affects, affects.dropped_le,
    value, ?_, fun optional => affects.dropped_eq_zero fun columns fetched => ?_⟩
  · rw [value, Option.some.injEq, signedCount_sub_eq_iff affects.dropped_le]
  · rw [fetched?, if_pos mutates] at fetched
    split at fetched
    · cases fetched
    · exact optional columns fetched

end Clients

/-- Posts point to their authors. -/
def authored : Graph := [⟨"posts_author_fkey", "posts", "author_id", "profiles", "id"⟩]

/-- Every statement finds one post without an author. -/
def oneOrphan : Backend where
  query _ := .ok [[("id", .int 1), ("author_id", .null)]]
  execute _ := .ok 0
  batch _ := .ok ()
  graph := .ok authored

/-- A post that is inserted, and returned if it has an author. -/
def orphanedPost : Query :=
  (((ofTable "posts").insert (.value (.obj [("title", .str "t")]))).select
    "id, author:profiles!inner(username)").withCount .exact

theorem value_attempt_orphanedPost :
    (orphanedPost.attempt .standard).run.value oneOrphan = .ok ⟨some [], some 0⟩ := by
  have fetch : (orphanedPost.fetch .standard "id, author:profiles!inner(username)").run.value
      oneOrphan = .ok [] := by
    decide +kernel
  have runs : orphanedPost.attempt .standard =
      orphanedPost.fetch .standard "id, author:profiles!inner(username)" >>= fun rows =>
        pure ⟨some rows, some (signedCount rows.length)⟩ := rfl
  rw [runs, Attempt.value_run_bind, fetch]
  rfl

/-- The post is inserted, and counted as none. -/
theorem orphanedPost_counts_affected :
    let e := oneOrphan.executor
    let c : Client (Unit × List Script.Record) :=
      { Client.create .standard e.recorded ((), []) with
        graphs := { GraphCache.empty with cached := some authored } }
    let t := orphanedPost.execute .standard
    let outcome : Outcome (List Row) := ⟨some [], none, some 0⟩
    c.executor = e.recorded ∧ (∀ id, c.graphs.isRunning id = false) ∧
    orphanedPost.action.isMutation = true ∧ orphanedPost.count ≠ none ∧
    orphanedPost.Ending .standard false t allRows ∧ (c.run t).2 = some outcome ∧
    outcome.error = none ∧ ∃ trace records, c.Sent (c.run t).1 records ∧
      Sends c.config (c.graphs.cached = none) (trace.map Exchange.request) records ∧
      orphanedPost.Affects .standard trace 1 1 := by
  intro e c t outcome
  have free : ∀ id, c.graphs.isRunning id = false := fun _ => rfl
  have ending : orphanedPost.Ending c.config false t allRows := .execute
  have gives : ∀ r, c.Gives oneOrphan r := by
    intro r
    cases r with
    | query | execute | batch => exact fun _ => rfl
    | graph => exact ⟨authored, rfl, rfl⟩
  have ends : (c.run t).2 = some outcome := (ends_of_value gives value_attempt_orphanedPost).1
  obtain ⟨trace, records, affected, dropped, sent, sends, answers, affects, -, count, -, -⟩ :=
    run_counts_affected rfl free rfl (Option.some_ne_none _) ending ends rfl
  have one : affected = 1 := by
    cases affects with
    | nothing writes => cases writes
    | counted unread => cases unread
    | @returned _ _ _ _ _ _ main rows =>
      obtain ⟨behind, yields⟩ := answers ⟨.query .insert main, .ok rows⟩
        (List.mem_append_right _ List.mem_cons_self)
      obtain given | ⟨_, ⟨⟩⟩ := Reply.yields_of_within yields
      exact (congrArg List.length (Except.ok.inj given)).symm
  subst one
  have whole : dropped = 1 := by
    obtain rfl | one := Nat.le_one_iff_eq_zero_or_eq_one.1 affects.dropped_le
    · exact absurd count (by decide)
    · exact one
  subst whole
  exact ⟨rfl, free, rfl, Option.some_ne_none _, ending, ends, rfl, trace, records, sent, sends,
    affects⟩

end FluentQuery.Query
