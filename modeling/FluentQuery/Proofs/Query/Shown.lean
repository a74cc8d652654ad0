import FluentQuery.Proofs.Query.Refused
import FluentQuery.Query.Call

/-! What is shown of a query is what runs. Without references, head mode and a count, a run sends
the one statement of `toSql` and nothing else, and an error of `toSql` is that of the run, which
then sends nothing. Only an insert or upsert without rows is shown as more than it is: it succeeds
and sends nothing, whatever `toSql` makes of it. -/
namespace FluentQuery

/-! Refused arguments -/

/-- An error that comes of what the caller gave. -/
inductive Error.OfCaller : Error → Prop where
  | invalid (cause : Invalid) : OfCaller (.invalid cause)
  | serialization (detail : Text) : OfCaller (.serialization detail)

theorem Error.OfCaller.code_eq {e : Error} (refused : e.OfCaller) : e.code = Error.invalidCode := by
  cases refused <;> rfl

theorem Error.OfCaller.message_ofError {e : Error} (refused : e.OfCaller) :
    (Fault.ofError e).message = e.message := by
  cases refused <;> rfl

namespace Query

open Script (Record)

variable {config : Config} {q : Query} {e : Error}

/-- The query holds no error but one of the caller's. -/
def OnlyRefused (q : Query) : Prop :=
  ∀ e, q.deferred = some e → e.OfCaller

theorem OnlyRefused.defer (only : q.OnlyRefused) (refused : e.OfCaller) :
    (q.defer e).OnlyRefused := by
  intro f deferred
  rw [Query.defer] at deferred
  obtain early | ⟨-, late⟩ := Option.or_eq_some_iff.1 deferred
  · exact only f early
  · exact Option.some.inj late ▸ refused

theorem OnlyRefused.refuse (only : q.OnlyRefused) (cause : Invalid) :
    (q.refuse cause).OnlyRefused :=
  only.defer (.invalid cause)

theorem OnlyRefused.of_take (only : q.OnlyRefused) {a : Argument} {r s : Query} {v : Json}
    (taken : q.take a = (r, v)) (same : s.deferred = r.deferred) : s.OnlyRefused := by
  rw [OnlyRefused, same]
  cases a with
  | value w => exact (Prod.mk.inj taken).1 ▸ only
  | failing message => exact (Prod.mk.inj taken).1 ▸ only.defer (.serialization message)

theorem OnlyRefused.payload (only : q.OnlyRefused) (a : Argument) :
    (q.payload a).1.OnlyRefused := by
  unfold Query.payload
  split
  · next taken => exact only.of_take taken rfl
  · next taken =>
    split
    · exact only.of_take taken rfl
    · exact (only.of_take taken rfl).refuse _
  · next taken => exact (only.of_take taken rfl).refuse _

theorem OnlyRefused.filter (only : q.OnlyRefused) (column name : Text) (a : Argument) :
    (q.filter column name a).OnlyRefused := by
  unfold Query.filter
  split
  · exact only.of_take (a := a) rfl rfl
  · split
    · exact only.refuse _
    · split
      · next taken =>
        split
        · exact only.of_take taken rfl
        · exact (only.of_take taken rfl).refuse _
      · next taken => exact only.of_take taken rfl

theorem OnlyRefused.call (only : q.OnlyRefused) (call : Call) : (q.call call).OnlyRefused := by
  cases call with
  | select | selectWith | delete | count | or | order => exact only
  | insert rows | upsert rows => exact only.payload rows
  | restrict _ _ value | not _ _ value => exact only.of_take (a := value) rfl rfl
  | filter column name value => exact only.filter column name value
  | update patch =>
    simp only [Query.call, update]
    split
    · next taken => exact only.of_take taken rfl
    · next taken => exact (only.of_take taken rfl).refuse _
  | matching members =>
    simp only [Query.call, matching]
    split
    · next taken => exact only.of_take taken rfl
    · next taken => exact (only.of_take taken rfl).refuse _
  | limit count =>
    simp only [Query.call, withLimit]
    split
    · exact only.refuse _
    · exact only
  | range first last =>
    simp only [Query.call, withRange]
    split
    · exact only.refuse _
    · split
      · exact only.refuse _
      · exact only

/-- Whatever the calls are, only their arguments can be refused. -/
theorem onlyRefused_ofCalls (table : Text) (calls : List Call) :
    (ofCalls table calls).OnlyRefused := by
  have run : ∀ q : Query, q.OnlyRefused → (calls.foldl call q).OnlyRefused := by
    induction calls with
    | nil => exact fun _ only => only
    | cons call rest ih => exact fun q only => ih _ (only.call call)
  exact run _ nofun

theorem OnlyRefused.ofCaller_of_toSql (only : q.OnlyRefused) {searchConfig : Text}
    (stuck : q.toSql searchConfig = .error e) : e.OfCaller := by
  unfold toSql at stuck
  split at stuck
  · next deferred => exact Except.error.inj stuck ▸ only _ deferred
  · split at stuck
    · cases stuck
    · exact Except.error.inj stuck ▸ .invalid _

/-! Main statements -/

/-- A query whose run is one main statement: nothing is counted and nothing is followed. -/
structure Single (q : Query) : Prop where
  whole : q.head = false
  uncounted : q.count = none
  plain : ∀ columns, q.columns = some columns → (Selection.parse columns).references = []

/-- The request for a main statement; a mutation that returns nothing is only executed. -/
def request (q : Query) (s : Statement) : Request :=
  if q.action.isMutation = true ∧ q.columns = none then .execute q.kind s else .query q.kind s

/-- The record of a main statement. -/
def recordOf (q : Query) (s : Statement) : Record :=
  ⟨if q.action.isMutation = true ∧ q.columns = none then .execute else .query, s⟩

theorem records_of_request {loading : Prop} {s : Statement} {records : List Record}
    (sends : Sends config loading [q.request s] records) : records = [q.recordOf s] := by
  unfold request at sends
  unfold recordOf
  split at sends
  · next returns =>
    cases sends with
    | execute _ _ rest =>
      cases rest
      rw [if_pos returns]
  · next returns =>
    cases sends with
    | query _ _ rest =>
      cases rest
      rw [if_neg returns]

variable {trace : List Exchange}

/-! Fetched rows -/

variable {columns : Text}

/-- Rows are fetched by the columns of the query, or all of them for a select. -/
theorem columns_of_fetched (fetched : q.fetched? = some columns) :
    q.columns = some columns ∨
      q.columns = none ∧ q.action.isMutation = false ∧ columns = ['*'] := by
  unfold fetched? at fetched
  split at fetched
  · split at fetched
    · cases fetched
    · exact .inl fetched
  · next selects =>
    split at fetched
    · cases fetched
    · rw [Bool.not_eq_true] at selects
      cases listed : q.columns with
      | none =>
        rw [listed] at fetched
        exact .inr ⟨rfl, selects, (Option.some.inj fetched).symm⟩
      | some other =>
        rw [listed] at fetched
        exact .inl fetched

theorem Single.plain_fetched (single : q.Single) (fetched : q.fetched? = some columns) :
    (Selection.parse columns).references = [] := by
  obtain listed | ⟨-, -, rfl⟩ := columns_of_fetched fetched
  · exact single.plain columns listed
  · decide +kernel

theorem request_of_fetched (fetched : q.fetched? = some columns) (s : Statement) :
    q.request s = .query q.kind s := by
  refine if_neg fun ⟨mutates, unread⟩ => ?_
  obtain listed | ⟨-, selects, -⟩ := columns_of_fetched fetched
  · cases listed.symm.trans unread
  · cases mutates.symm.trans selects

/-- The select list that is shown is the one of a query without references. -/
theorem plainList_of_fetched (fetched : q.fetched? = some columns) :
    q.plainList = (Projection.make (Selection.parse columns) []).map fun p => some p.sql := by
  obtain listed | ⟨unread, selects, rfl⟩ := columns_of_fetched fetched
  · rw [plainList, listed]
  · have all : Projection.make (Selection.parse ['*']) [] = .ok ⟨['*'], [], []⟩ := by decide +kernel
    rw [plainList, unread, selects, all]
    rfl

theorem toSql_of_ok {s : Statement} (accepted : q.deferred = none)
    (written : q.plainList >>= q.mainStatement config.searchConfig = .ok s) :
    q.toSql config.searchConfig = .ok s := by
  rw [toSql, accepted]
  simp only [written]

theorem toSql_of_error {cause : Invalid} (accepted : q.deferred = none)
    (stuck : q.plainList >>= q.mainStatement config.searchConfig = .error cause) :
    q.toSql config.searchConfig = .error (.invalid cause) := by
  rw [toSql, accepted]
  simp only [stuck]

variable {α : Type}

/-- What has run is the error that is shown, or the statement that is shown and no other. -/
def Shown (config : Config) (q : Query) (trace : List Exchange) (result : Except Error α) : Prop :=
  (∃ e, q.toSql config.searchConfig = .error e ∧ trace = [] ∧ result = .error e) ∨
    ∃ s, q.toSql config.searchConfig = .ok s ∧ trace.map Exchange.request = [q.request s]

theorem Shown.map {β : Type} {result : Except Error α} (shown : q.Shown config trace result)
    (f : α → β) : q.Shown config trace (result.map f) := by
  obtain ⟨e, stuck, rfl, rfl⟩ | runs := shown
  · exact .inl ⟨e, stuck, rfl, rfl⟩
  · exact .inr runs

theorem shown_of_fetch (single : q.Single) (accepted : q.deferred = none)
    (fetched : q.fetched? = some columns) {result : Except Error (List Row)}
    (goes : (q.fetch config columns).run.Trace trace result) : q.Shown config trace result := by
  have list := plainList_of_fetched fetched
  simp only [fetch, fetchAlong, single.plain_fetched fetched, List.isEmpty_nil, if_true,
    Relation.localColumns, List.filterMap_nil, List.map_nil] at goes
  rw [Attempt.trace_reportAll_bind] at goes
  obtain ⟨cause, stuck, rfl, rfl⟩ | ⟨p, made, goes⟩ := Attempt.trace_valid_bind.1 goes
  · refine .inl ⟨_, toSql_of_error accepted ?_, rfl, rfl⟩
    rw [list, stuck]
    rfl
  · rw [made] at list
    obtain ⟨cause, stuck, rfl, rfl⟩ | ⟨s, written, goes⟩ := Attempt.trace_valid_bind.1 goes
    · refine .inl ⟨_, toSql_of_error accepted ?_, rfl, rfl⟩
      rw [list]
      exact stuck
    · refine .inr ⟨s, toSql_of_ok accepted ?_, ?_⟩
      · rw [list]
        exact written
      · rw [request_of_fetched fetched]
        obtain ⟨e, rfl, -⟩ | ⟨rows, related, rfl, follows⟩ := Attempt.trace_ask_bind.1 goes
        · rfl
        · obtain ⟨final, resolves, -⟩ := Attempt.trace_lift.1 follows
          obtain ⟨_, _, _, ⟨rfl, -⟩, rfl, rfl, -⟩ := Job.trace_bind.1 resolves
          rfl

/-! Runs -/

theorem shown_of_runMutation (single : q.Single) (accepted : q.deferred = none)
    (mutates : q.action.isMutation = true) (writes : q.writesNothing = false)
    {result : Except Error Yield} (goes : (q.runMutation config).run.Trace trace result) :
    q.Shown config trace result := by
  rw [runMutation, writes, if_neg Bool.false_ne_true] at goes
  split at goes
  · next columns listed =>
    have fetched : q.fetched? = some columns := by
      rw [fetched?, if_pos mutates, writes, if_neg Bool.false_ne_true, listed]
    obtain ⟨rows, fetch, rfl⟩ := Attempt.trace_bind_pure.1 goes
    exact (shown_of_fetch single accepted fetched fetch).map _
  · next unread =>
    have list : q.plainList = .ok none := by
      rw [plainList, unread, mutates]
      rfl
    obtain ⟨cause, stuck, rfl, rfl⟩ | ⟨s, written, next⟩ := Attempt.trace_valid_bind.1 goes
    · refine .inl ⟨_, toSql_of_error accepted ?_, rfl, rfl⟩
      rw [list]
      exact stuck
    · refine .inr ⟨s, toSql_of_ok accepted ?_, ?_⟩
      · rw [list]
        exact written
      · rw [request, if_pos ⟨mutates, unread⟩]
        obtain ⟨e, rfl, -⟩ | ⟨affected, _, rfl, last⟩ := Attempt.trace_ask_bind.1 next
        · rfl
        · obtain ⟨rfl, -⟩ := Attempt.trace_pure.1 last
          rfl

theorem shown_of_runSelect (single : q.Single) (accepted : q.deferred = none)
    (selects : q.action.isMutation = false) {result : Except Error Yield}
    (goes : (q.runSelect config).run.Trace trace result) : q.Shown config trace result := by
  have fetched : q.fetched? = some (q.columns.getD ['*']) := by
    rw [fetched?, selects, single.whole]
    rfl
  have runs : q.runSelect config =
      q.fetch config (q.columns.getD ['*']) >>= fun rows => pure ⟨some rows, none⟩ := by
    rw [runSelect, single.uncounted, single.whole]
    rfl
  rw [runs] at goes
  obtain ⟨rows, fetch, rfl⟩ := Attempt.trace_bind_pure.1 goes
  exact (shown_of_fetch single accepted fetched fetch).map _

/-- The query writes no rows, and none of its calls was refused. -/
def Idle (q : Query) : Prop :=
  q.deferred = none ∧ q.writesNothing = true

theorem shown_of_perform (single : q.Single) {result : Except Error Yield}
    (goes : (q.perform config).Trace trace result) :
    (q.Idle ∧ trace = [] ∧ result = .ok ⟨q.columns.map fun _ => [], none⟩) ∨
      ¬ q.Idle ∧ q.Shown config trace result := by
  rw [perform, Job.trace_reportAll_bind, attempt] at goes
  split at goes
  · next e refused =>
    obtain ⟨rfl, rfl⟩ := Attempt.trace_throw.1 goes
    refine .inr ⟨fun idle => ?_, .inl ⟨e, ?_, rfl, rfl⟩⟩
    · cases refused.symm.trans idle.1
    · rw [toSql, refused]
  · next accepted =>
    cases writes : q.writesNothing with
    | true =>
      have mutates : q.action.isMutation = true := by
        unfold writesNothing at writes
        split at writes
        · next action => rw [action]; rfl
        · next action => rw [action]; rfl
        · cases writes
      rw [if_pos mutates, runMutation, if_pos writes, single.uncounted] at goes
      obtain ⟨rfl, rfl⟩ := Attempt.trace_pure.1 goes
      exact .inl ⟨⟨accepted, writes⟩, rfl, rfl⟩
    | false =>
      refine .inr ⟨fun idle => ?_, ?_⟩
      · cases writes.symm.trans idle.2
      · split at goes
        · next mutates => exact shown_of_runMutation single accepted mutates writes goes
        · next selects => exact shown_of_runSelect single accepted (by simpa using selects) goes

section Clients

variable {σ : Type} {e : Executor σ} {c : Client (σ × List Record)}

/-- For every query of calls that neither follows references nor counts nor asks for a number only,
`toSql` shows what a run does: the statement that it gives is all that is sent, and an error that it
gives is reported with its message and code and nothing is sent. An insert or upsert of no rows
succeeds and sends nothing, unless a call was refused. -/
theorem run_as_shown (recorded : c.executor = e.recorded)
    (free : ∀ id, c.graphs.isRunning id = false) (table : Text) (calls : List Call)
    (single : (ofCalls table calls).Single) {one : Bool} {t : Job (Outcome α)}
    {finish : Except Error Yield → Outcome α}
    (ending : (ofCalls table calls).Ending c.config one t finish) :
    let q := ofCalls table calls
    ∃ outcome, (c.run t).2 = some outcome ∧
      (q.Idle → c.Sent (c.run t).1 [] ∧ outcome = finish (.ok ⟨q.columns.map fun _ => [], none⟩)) ∧
      (¬ q.Idle →
        (∀ s, q.toSql c.config.searchConfig = .ok s → c.Sent (c.run t).1 [q.recordOf s]) ∧
        ∀ error, q.toSql c.config.searchConfig = .error error →
          c.Sent (c.run t).1 [] ∧ error.code = Error.invalidCode ∧
            ∃ fault, outcome.error = some fault ∧ fault.message = error.message ∧
              fault.code = some error.code) := by
  intro q
  obtain ⟨trace, outcome, ends, goes, -, records, sent, sends⟩ :=
    Client.run_recorded recorded free t
  obtain ⟨result, performs, rfl⟩ := ending.perform_of_trace goes
  refine ⟨_, ends, ?_⟩
  obtain ⟨idle, rfl, rfl⟩ | ⟨works, ⟨error, stuck, rfl, rfl⟩ | ⟨s, written, asked⟩⟩ :=
    shown_of_perform single performs
  · cases sends
    exact ⟨fun _ => ⟨sent, rfl⟩, fun works => absurd idle works⟩
  · cases sends
    refine ⟨fun idle => absurd idle works, fun _ => ⟨fun s written => ?_, fun other same => ?_⟩⟩
    · cases stuck.symm.trans written
    · obtain rfl : error = other := Except.error.inj (stuck.symm.trans same)
      have refused := (onlyRefused_ofCalls table calls).ofCaller_of_toSql stuck
      exact ⟨sent, refused.code_eq, .ofError error, congrArg Outcome.error (ending.of_error error),
        refused.message_ofError, Fault.code_ofError error⟩
  · rw [asked] at sends
    obtain rfl := records_of_request sends
    refine ⟨fun idle => absurd idle works, fun _ => ⟨fun other same => ?_, fun error stuck => ?_⟩⟩
    · obtain rfl : s = other := Except.ok.inj (written.symm.trans same)
      exact sent
    · cases written.symm.trans stuck

end Clients

/-- A game that is inserted. -/
def insertedGame : List Call :=
  [.insert (.value (.obj [("title", .str "t")]))]

theorem insertedGame_as_shown :
    let q := ofCalls "games" insertedGame
    let e := threeGames.executor
    let c := Client.create .standard e.recorded ((), [])
    let t := q.execute .standard
    let s : Statement := ⟨"INSERT INTO \"games\" (\"title\") VALUES ($1)", [.str "t"]⟩
    c.executor = e.recorded ∧ (∀ id, c.graphs.isRunning id = false) ∧ q.Single ∧
    q.Ending .standard false t allRows ∧ ¬ q.Idle ∧ q.toSql c.config.searchConfig = .ok s ∧
    ∃ outcome, (c.run t).2 = some outcome ∧ c.Sent (c.run t).1 [⟨.execute, s⟩] := by
  intro q e c t s
  have free : ∀ id, c.graphs.isRunning id = false := fun _ => rfl
  have single : q.Single := ⟨rfl, rfl, nofun⟩
  have ending : q.Ending c.config false t allRows := .execute
  have works : ¬ q.Idle := fun idle => Bool.noConfusion idle.2
  have shown : q.toSql c.config.searchConfig = .ok s := by decide +kernel
  obtain ⟨outcome, ends, -, sends⟩ :=
    run_as_shown rfl free "games" insertedGame single ending
  exact ⟨rfl, free, single, ending, works, shown, outcome, ends, (sends works).1 s shown⟩

/-- No game that is inserted. -/
def insertedNothing : List Call :=
  [.insert (.value (.arr []))]

/-- A statement is shown, and none is sent. -/
theorem insertedNothing_not_as_shown :
    let q := ofCalls "games" insertedNothing
    let c := Client.create .standard threeGames.executor.recorded ((), [])
    let t := q.execute .standard
    let s : Statement := ⟨"INSERT INTO \"games\" DEFAULT VALUES", []⟩
    q.Single ∧ q.toSql c.config.searchConfig = .ok s ∧ c.Sent (c.run t).1 [] ∧
      ∀ way, ¬ c.Sent (c.run t).1 [⟨way, s⟩] := by
  intro q c t s
  have single : q.Single := ⟨rfl, rfl, nofun⟩
  have shown : q.toSql c.config.searchConfig = .ok s := by decide +kernel
  obtain ⟨trace, outcome, -, goes, -, records, sent, sends⟩ :=
    Client.run_recorded (c := c) rfl (fun _ => rfl) t
  obtain ⟨result, performs, -⟩ := Ending.execute.perform_of_trace goes
  obtain ⟨-, rfl, -⟩ | ⟨works, -⟩ := shown_of_perform single performs
  · cases sends
    refine ⟨single, shown, sent, fun way other => ?_⟩
    cases List.append_cancel_left (sent.symm.trans other)
  · exact absurd ⟨rfl, rfl⟩ works

end Query

end FluentQuery
