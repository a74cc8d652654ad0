import FluentQuery.Proofs.Query.Shown

/-! The first argument that is refused decides how a query ends. `Call.fault?` says what is wrong
with the argument of one call, whatever was called before it, and a query keeps the first of these
faults. With it every ending fails at once: the client reports what the calls had to report and is
otherwise left as it was, so nothing is sent. -/
namespace FluentQuery

/-! Faults of single calls -/

/-- What is wrong with an argument whose value has to pass a check. Where there is no value, nothing
is checked. -/
def Argument.fault? (check : Json → Option Invalid) : Argument → Option Error
  | .value v => (check v).map .invalid
  | .failing message => some (.serialization message)

namespace Call

/-- Rows are one object or an array of objects. -/
def rowsFault? : Json → Option Invalid
  | .obj _ => none
  | .arr items => (items.find? fun item => !item.isObject).map .payloadRow
  | other => some (.payload other)

def objectFault? (cause : Json → Invalid) (v : Json) : Option Invalid :=
  if v.isObject then none else some (cause v)

/-- Of the texts only a list can be written wrongly: it needs its brackets. -/
def operandFault? (op : Operator) : Json → Option Invalid
  | .str raw =>
    if op = .among ∧ Text.between? ['('] ')' (Text.trim raw) = none then
      some (.inOperand (Text.trim raw))
    else none
  | _ => none

/-- An operator that is not known is refused before its operand is looked at; one behind `not.` is
not refused. -/
def filterFault? (name : Text) (a : Argument) : Option Error :=
  if ("not." : Text).isPrefixOf name then a.fault? fun _ => none
  else
    match Operator.parse? name with
    | none => some (.invalid (.operator name))
    | some op => a.fault? (operandFault? op)

def limitFault? (n : Nat) : Option Invalid :=
  if maxRows < n then some (.limit n) else none

/-- A range ends at its start or behind it, and neither its start nor the number of its rows is too
large. -/
def rangeFault? (first last : Nat) : Option Invalid :=
  if last < first then some (.rangeReversed first last)
  else if maxRows < first ∨ maxRows < last - first + 1 then some (.rangeTooLarge first last)
  else none

/-- What is wrong with the argument of a call, as far as the call can tell. -/
def fault? : Call → Option Error
  | .insert rows | .upsert rows _ => rows.fault? rowsFault?
  | .update patch => patch.fault? (objectFault? .patch)
  | .matching members => members.fault? (objectFault? .matching)
  | .restrict _ _ value | .not _ _ value => value.fault? fun _ => none
  | .filter _ name value => filterFault? name value
  | .limit n => (limitFault? n).map .invalid
  | .range first last => (rangeFault? first last).map .invalid
  | .select _ | .selectWith .. | .delete | .count _ | .or _ | .order .. => none

end Call

/-- The rows of an array are read unless an item is no object. -/
theorem Query.find?_isObject (items : List Json) :
    items.find? (fun item => !item.isObject) =
      match rowsOf items with
      | .ok _ => none
      | .error other => some other := by
  induction items with
  | nil => rfl
  | cons item rest ih =>
    cases item with
    | obj row =>
      have passes : (!(Json.obj row).isObject) = false := rfl
      simp only [List.find?_cons, passes, ih, rowsOf]
      cases rowsOf rest <;> rfl
    | _ => simp [Json.isObject, rowsOf]

theorem Operand.parse_eq_error_iff {op : Operator} {raw : Text} {cause : Invalid} :
    parse op raw = .error cause ↔ Call.operandFault? op (.str raw) = some cause := by
  cases op with
  | among =>
    simp only [parse, Call.operandFault?]
    cases bracketed : Text.between? ['('] ')' (Text.trim raw) <;> simp
  | _ => simp [parse, Call.operandFault?]

theorem Error.OfCaller.ofError_eq {e : Error} (refused : e.OfCaller) :
    Fault.ofError e = ⟨e.message, some invalidCode, none, none⟩ := by
  cases refused <;> rfl

namespace Query

/-! What a query keeps -/

theorem deferred_take (q : Query) (a : Argument) :
    (q.take a).1.deferred = q.deferred.or (a.fault? fun _ => none) := by
  cases a <;> simp [take, defer, Argument.fault?]

/-- A value that fails its check is refused; where there is none, the null that stands for it is
refused after the reason for that, and so not at all. -/
theorem deferred_payload (q : Query) (a : Argument) :
    (q.payload a).1.deferred = q.deferred.or (a.fault? Call.rowsFault?) := by
  cases a with
  | failing message => simp [payload, take, defer, refuse, Argument.fault?]
  | value v =>
    cases v with
    | arr items =>
      simp only [payload, take, Argument.fault?, Call.rowsFault?, find?_isObject]
      cases rowsOf items <;> simp [refuse, defer]
    | _ => simp [payload, take, refuse, defer, Argument.fault?, Call.rowsFault?]

theorem deferred_update (q : Query) (a : Argument) :
    (q.update a).deferred = q.deferred.or (a.fault? (Call.objectFault? .patch)) := by
  cases a with
  | failing message => simp [update, take, defer, refuse, Argument.fault?]
  | value v =>
    cases v <;>
      simp [update, take, refuse, defer, Argument.fault?, Call.objectFault?, Json.isObject]

theorem deferred_matching (q : Query) (a : Argument) :
    (q.matching a).deferred = q.deferred.or (a.fault? (Call.objectFault? .matching)) := by
  cases a with
  | failing message => simp [matching, take, defer, refuse, Argument.fault?]
  | value v =>
    cases v <;>
      simp [matching, take, refuse, defer, Argument.fault?, Call.objectFault?, Json.isObject]

theorem deferred_filter (q : Query) (column name : Text) (a : Argument) :
    (q.filter column name a).deferred = q.deferred.or (Call.filterFault? name a) := by
  unfold filter Call.filterFault?
  cases negated : ("not." : Text).isPrefixOf? name with
  | some rest =>
    have starts : ("not." : Text).isPrefixOf name = true := by
      rw [Text.isPrefixOf?_eq_some.1 negated]
      exact List.isPrefixOf_iff_prefix.2 (List.prefix_append _ _)
    rw [if_pos starts]
    exact deferred_take q a
  | none =>
    have other : ¬("not." : Text).isPrefixOf name = true := by
      intro starts
      obtain ⟨rest, rfl⟩ := List.isPrefixOf_iff_prefix.1 starts
      cases negated.symm.trans (Text.isPrefixOf?_eq_some.2 rfl)
    rw [if_neg other]
    cases Operator.parse? name with
    | none => rfl
    | some op =>
      cases a with
      | failing message => simp [take, defer, Argument.fault?]
      | value v =>
        cases v with
        | str raw =>
          simp only [take, Argument.fault?]
          cases read : Operand.parse op raw with
          | error cause => simp [Operand.parse_eq_error_iff.1 read, refuse, defer]
          | ok operand =>
            have plain : Call.operandFault? op (.str raw) = none := by
              refine Option.eq_none_iff_forall_ne_some.2 fun cause fault => ?_
              cases read.symm.trans (Operand.parse_eq_error_iff.2 fault)
            simp [plain]
        | _ => simp [take, Argument.fault?, Call.operandFault?]

/-- A call adds what is wrong with its argument, behind what was wrong before it. -/
theorem deferred_call (q : Query) (call : Call) :
    (q.call call).deferred = q.deferred.or call.fault? := by
  cases call with
  | select | selectWith | delete | count | or | order => exact (Option.or_none).symm
  | insert rows | upsert rows => exact deferred_payload q rows
  | update patch => exact deferred_update q patch
  | matching members => exact deferred_matching q members
  | restrict _ _ value | not _ _ value => exact deferred_take q value
  | filter column name value => exact deferred_filter q column name value
  | limit count =>
    simp only [Query.call, withLimit, Call.fault?, Call.limitFault?]
    split <;> simp [refuse, defer]
  | range first last =>
    have rows : maxRows < last - first + 1 ↔ maxRows ≤ last - first := Nat.lt_succ_iff
    simp only [Query.call, withRange, Call.fault?, Call.rangeFault?, rows]
    split
    · simp [refuse, defer]
    · split <;> simp [refuse, defer]

theorem deferred_foldl (q : Query) (calls : List Call) :
    (calls.foldl call q).deferred = q.deferred.or (calls.findSome? Call.fault?) := by
  induction calls generalizing q with
  | nil => simp
  | cons call rest ih =>
    rw [List.foldl_cons, ih, deferred_call, Option.or_assoc, List.findSome?_cons]
    cases call.fault? <;> simp

/-- A query holds the fault of the first call that has one. -/
theorem deferred_ofCalls (table : Text) (calls : List Call) :
    (ofCalls table calls).deferred = calls.findSome? Call.fault? := by
  rw [ofCalls, deferred_foldl]
  rfl

end Query

/-! Jobs that ask nothing -/

namespace Client

variable {σ α : Type} (c : Client σ)

theorem advance_reportAll_bind (events : List Event) (t : Job α) :
    c.advance (Job.reportAll events >>= fun _ => t) = (c.reportAll events).advance t := by
  induction events generalizing c with
  | nil =>
    change c.advance t = _
    rw [reportAll, List.append_nil]
  | cons event rest ih =>
    change (c.report event).advance (Job.reportAll rest >>= fun _ => t) = _
    rw [ih (c.report event), reportAll, report, reportAll, List.append_assoc]
    rfl

/-- A lane that has ended is left alone. -/
theorem settle_ended (value : α) : c.settle [.ended value] = (c, [.ended value]) := by
  have rests : c.round [Lane.ended value] = (c, [.ended value], false) := by
    simp [round, turn, agenda, ready, wakeAll, sleep, Lane.dues]
  rw [settle, rests]

theorem run_of_advance {c d : Client σ} {t : Job α} {value : α}
    (ends : c.advance t = (d, .ended value)) : c.run t = (d, some value) := by
  simp [run, start, ends, settle_ended, Lane.value?]

end Client

namespace Query

variable {σ α : Type} {q : Query} {e : Error} {config : Config}

/-! Endings of refused queries -/

/-- A query that holds an error ends with it at once. -/
theorem advance_of_deferred (refused : q.deferred = some e) {one : Bool} {t : Job (Outcome α)}
    {finish : Except Error Yield → Outcome α} (ending : q.Ending config one t finish)
    (c : Client σ) : c.advance t = (c.reportAll q.notices, .ended (.ofError e)) := by
  have attempts : q.attempt config = throw e := by rw [attempt, refused]
  have whole {β : Type} (f : Except Error Yield → β) :
      f <$> q.perform config = Job.reportAll q.notices >>= fun _ => Job.done (f (.error e)) := by
    rw [perform, attempts, map_bind]
    rfl
  cases ending with
  | execute => rw [execute, whole, Client.advance_reportAll_bind]; rfl
  | single => rw [single, whole, Client.advance_reportAll_bind]; rfl
  | maybeSingle => rw [maybeSingle, whole, Client.advance_reportAll_bind]; rfl

/-- Without a fault nothing is refused. Otherwise the first call with a fault decides, whatever is
called after it: its error is what the query compiles to and what every ending gives, and the client
is left as it was but for what the calls had to report. -/
theorem run_first_fault (table : Text) (calls : List Call) :
    ((∀ call ∈ calls, call.fault? = none) → (ofCalls table calls).deferred = none) ∧
    ∀ before call after e, calls = before ++ call :: after →
      (∀ earlier ∈ before, earlier.fault? = none) → call.fault? = some e →
      (∀ searchConfig, (ofCalls table calls).toSql searchConfig = .error e) ∧
      ∀ {σ α : Type} (c : Client σ) {one : Bool} {t : Job (Outcome α)}
        {finish : Except Error Yield → Outcome α},
        (ofCalls table calls).Ending c.config one t finish →
        c.run t = (c.reportAll (ofCalls table calls).notices,
          some (.fail ⟨e.message, some Error.invalidCode, none, none⟩)) := by
  refine ⟨fun valid => ?_, fun before call after e split valid faulty => ?_⟩
  · rw [deferred_ofCalls]
    exact List.findSome?_eq_none_iff.2 valid
  · have refused : (ofCalls table calls).deferred = some e := by
      rw [deferred_ofCalls, split, List.findSome?_append, List.findSome?_eq_none_iff.2 valid,
        List.findSome?_cons, faulty]
      rfl
    refine ⟨fun searchConfig => ?_, fun c _ _ _ ending => ?_⟩
    · rw [toSql, refused]
    · have caller : e.OfCaller := onlyRefused_ofCalls table calls e refused
      rw [← caller.ofError_eq]
      exact Client.run_of_advance (advance_of_deferred refused ending c)

/-- The second of five calls names no operator, and its value cannot be had either; each later call
has a fault of its own but the last. -/
def nowhereGames : List Call :=
  [.limit 5, .filter "a" "nope" (.failing "no value"), .insert (.failing "no rows"), .range 7 2,
    .range 0 9]

theorem nowhereGames_first_fault :
    let q := ofCalls "games" nowhereGames
    let e : Error := .invalid (.operator "nope")
    let c := Client.create .standard threeGames.executor ()
    (Call.limit 5).fault? = none ∧
    (Call.filter "a" "nope" (.failing "no value")).fault? = some e ∧
    q.toSql Config.standard.searchConfig = .error e ∧
    c.run (q.execute .standard) = (c, some (.fail
      ⟨"Validation error: unknown filter operator 'nope'", some "PGRST100", none, none⟩)) ∧
    (ofCalls "games" [.limit 5]).deferred = none := by
  intro q e c
  have valid : ∀ earlier ∈ [Call.limit 5], earlier.fault? = none := by decide
  have faulty : (Call.filter "a" "nope" (.failing "no value")).fault? = some e := by decide
  obtain ⟨-, refuses⟩ := run_first_fault "games" nowhereGames
  obtain ⟨unwritten, runs⟩ := refuses [.limit 5] _ _ e rfl valid faulty
  exact ⟨valid _ List.mem_cons_self, faulty, unwritten _, runs c .execute,
    (run_first_fault "games" [.limit 5]).1 valid⟩

end Query

end FluentQuery
