import FluentQuery.Proofs.Job

/-! Runs of a job, whatever is answered: the requests it asks, each with the answer that it gets, in
the order in which they are asked, and the value it ends with. Jobs side by side ask in any order
that keeps the order of each. Where the answers come from is not said here. -/
namespace FluentQuery

/-! Lists side by side -/

/-- The third list holds the items of both others, those of each in their order. -/
inductive Interleaves {α : Type} : List α → List α → List α → Prop where
  | nil : Interleaves [] [] []
  | left {a : α} {l m n : List α} (rest : Interleaves l m n) : Interleaves (a :: l) m (a :: n)
  | right {a : α} {l m n : List α} (rest : Interleaves l m n) : Interleaves l (a :: m) (a :: n)

namespace Interleaves

variable {α β : Type} {a : α} {l m n : List α}

theorem eq_of_nil_left (woven : Interleaves [] m n) : n = m := by
  generalize none : ([] : List α) = l at woven
  induction woven with
  | nil => rfl
  | left rest _ => cases none
  | right rest ih => rw [ih none]

theorem eq_of_nil_right (woven : Interleaves l [] n) : n = l := by
  generalize none : ([] : List α) = m at woven
  induction woven with
  | nil => rfl
  | left rest ih => rw [ih none]
  | right rest _ => cases none

/-- More of the first list may come first. -/
theorem append_left (front : List α) (woven : Interleaves l m n) :
    Interleaves (front ++ l) m (front ++ n) := by
  induction front with
  | nil => exact woven
  | cons a front ih => exact ih.left

theorem append_right (front : List α) (woven : Interleaves l m n) :
    Interleaves l (front ++ m) (front ++ n) := by
  induction front with
  | nil => exact woven
  | cons a front ih => exact ih.right

theorem mem_iff (woven : Interleaves l m n) : a ∈ n ↔ a ∈ l ∨ a ∈ m := by
  induction woven with
  | nil => simp
  | left rest ih => simp [ih, or_assoc]
  | right rest ih => simp [ih, or_left_comm]

theorem filter (keep : α → Bool) (woven : Interleaves l m n) :
    Interleaves (l.filter keep) (m.filter keep) (n.filter keep) := by
  induction woven with
  | nil => exact .nil
  | @left a _ _ _ rest ih =>
    cases kept : keep a with
    | true => simpa only [List.filter_cons, kept, if_true] using ih.left
    | false => simpa [List.filter_cons, kept] using ih
  | @right a _ _ _ rest ih =>
    cases kept : keep a with
    | true => simpa only [List.filter_cons, kept, if_true] using ih.right
    | false => simpa [List.filter_cons, kept] using ih

theorem map (f : α → β) (woven : Interleaves l m n) :
    Interleaves (l.map f) (m.map f) (n.map f) := by
  induction woven with
  | nil => exact .nil
  | left rest ih => exact ih.left
  | right rest ih => exact ih.right

/-- What the items of both lists stand for comes in the order of the items. -/
theorem of_map {f : β → α} {l m : List β} (woven : Interleaves (l.map f) (m.map f) n) :
    ∃ marked, Interleaves l m marked ∧ marked.map f = n := by
  generalize first : l.map f = front at woven
  generalize second : m.map f = back at woven
  induction woven generalizing l m with
  | nil =>
    rw [List.map_eq_nil_iff] at first second
    subst first second
    exact ⟨[], .nil, rfl⟩
  | left rest ih =>
    obtain ⟨b, l, rfl, rfl, tail⟩ := List.map_eq_cons_iff.1 first
    obtain ⟨marked, woven, same⟩ := ih tail second
    exact ⟨b :: marked, woven.left, by rw [List.map_cons, same]⟩
  | right rest ih =>
    obtain ⟨b, m, rfl, rfl, tail⟩ := List.map_eq_cons_iff.1 second
    obtain ⟨marked, woven, same⟩ := ih first tail
    exact ⟨b :: marked, woven.right, by rw [List.map_cons, same]⟩

end Interleaves

/-- A request and the answer to it. -/
structure Exchange where
  request : Request
  answer : Except Error request.Answer

namespace Exchange

/-- The error, if that is the answer. -/
def error? (x : Exchange) : Option Error :=
  match x.answer with
  | .ok _ => none
  | .error e => some e

/-- The rows, if they are the answer. -/
def rows : Exchange → List Row
  | ⟨.query _ _, .ok rows⟩ => rows
  | _ => []

/-- No answer is an error, but for the last one perhaps. -/
def Unbroken (asked : List Exchange) : Prop :=
  ∀ x ∈ asked.dropLast, x.error? = none

variable {x : Exchange} {front back : List Exchange}

theorem unbroken_nil : Unbroken [] := List.forall_mem_nil _

theorem Unbroken.prepend (answered : ∀ x ∈ front, x.error? = none) (rest : Unbroken back) :
    Unbroken (front ++ back) := by
  intro x member
  by_cases none : back = []
  · rw [none, List.append_nil] at member
    exact answered x (List.dropLast_subset _ member)
  · rw [List.dropLast_append_of_ne_nil none] at member
    exact (List.mem_append.1 member).elim (answered x) (rest x)

theorem unbroken_of_answered (answered : ∀ x ∈ front, x.error? = none) : Unbroken front :=
  fun x member => answered x (List.dropLast_subset _ member)

/-- An error is the last answer. -/
theorem Unbroken.getLast?_eq (unbroken : Unbroken front) (member : x ∈ front) {e : Error}
    (failed : x.error? = some e) : front.getLast? = some x := by
  have filled : front ≠ [] := List.ne_nil_of_mem member
  rw [← List.dropLast_append_getLast filled, List.mem_append, List.mem_singleton] at member
  obtain early | rfl := member
  · cases (unbroken x early).symm.trans failed
  · exact List.getLast?_eq_some_getLast filled

theorem unbroken_singleton (x : Exchange) : Unbroken [x] := List.forall_mem_nil _

end Exchange

namespace Job

variable {α β γ : Type}

/-- The job may make these exchanges and end with the value. -/
def Trace {α : Type} : Job α → List Exchange → α → Prop
  | .done value, trace, result => trace = [] ∧ result = value
  | .note _ next, trace, result => next.Trace trace result
  | .ask request next, trace, result =>
    ∃ answer rest, trace = ⟨request, answer⟩ :: rest ∧ (next answer).Trace rest result
  | .both _ first second next, trace, result =>
    ∃ l a m b n rest, first.Trace l a ∧ second.Trace m b ∧ Interleaves l m n ∧
      trace = n ++ rest ∧ (next (a, b)).Trace rest result

variable {trace : List Exchange} {result : β}

theorem trace_bind {t : Job α} {f : α → Job β} :
    (t >>= f).Trace trace result ↔
      ∃ front v back, t.Trace front v ∧ trace = front ++ back ∧ (f v).Trace back result := by
  change (t.bind f).Trace trace result ↔ _
  induction t generalizing trace with
  | done v =>
    constructor
    · intro goes
      exact ⟨[], v, trace, ⟨rfl, rfl⟩, rfl, goes⟩
    · rintro ⟨_, _, back, ⟨rfl, rfl⟩, rfl, goes⟩
      exact goes
  | note event next ih => exact ih
  | ask request next ih =>
    constructor
    · rintro ⟨answer, rest, rfl, goes⟩
      obtain ⟨front, v, back, first, rfl, last⟩ := (ih answer).1 goes
      exact ⟨⟨request, answer⟩ :: front, v, back, ⟨answer, front, rfl, first⟩, rfl, last⟩
    · rintro ⟨_, v, back, ⟨answer, front, rfl, first⟩, rfl, last⟩
      exact ⟨answer, front ++ back, rfl, (ih answer).2 ⟨front, v, back, first, rfl, last⟩⟩
  | both order one two next _ _ ih =>
    constructor
    · rintro ⟨l, a, m, b, n, rest, first, second, woven, rfl, goes⟩
      obtain ⟨front, v, back, third, rfl, last⟩ := (ih (a, b)).1 goes
      exact ⟨n ++ front, v, back, ⟨l, a, m, b, n, front, first, second, woven, rfl, third⟩,
        (List.append_assoc ..).symm, last⟩
    · rintro ⟨_, v, back, ⟨l, a, m, b, n, front, first, second, woven, rfl, third⟩, rfl, last⟩
      exact ⟨l, a, m, b, n, front ++ back, first, second, woven, List.append_assoc ..,
        (ih (a, b)).2 ⟨front, v, back, third, rfl, last⟩⟩

theorem trace_map {f : α → β} {t : Job α} :
    (f <$> t).Trace trace result ↔ ∃ v, t.Trace trace v ∧ result = f v := by
  rw [map_eq_pure_bind, trace_bind]
  constructor
  · rintro ⟨front, v, _, goes, rfl, rfl, rfl⟩
    exact ⟨v, by rwa [List.append_nil], rfl⟩
  · rintro ⟨v, goes, rfl⟩
    exact ⟨trace, v, [], goes, (List.append_nil _).symm, rfl, rfl⟩

theorem trace_reportAll {events : List Event} {v : Unit} :
    (reportAll events).Trace trace v ↔ trace = [] := by
  induction events with
  | nil => exact ⟨And.left, fun none => ⟨none, rfl⟩⟩
  | cons event rest ih => exact ih

theorem trace_report_bind {event : Event} {f : Unit → Job β} :
    (report event >>= f).Trace trace result ↔ (f ()).Trace trace result :=
  Iff.rfl

theorem trace_reportAll_bind {events : List Event} {f : Unit → Job β} :
    (reportAll events >>= f).Trace trace result ↔ (f ()).Trace trace result := by
  rw [trace_bind]
  constructor
  · rintro ⟨_, v, back, none, rfl, goes⟩
    rw [trace_reportAll] at none
    rwa [none]
  · intro goes
    exact ⟨[], (), trace, trace_reportAll.2 rfl, rfl, goes⟩

end Job

/-! Attempts -/

namespace Attempt

variable {α β : Type} {trace : List Exchange} {result : Except Error β}

theorem trace_pure {v : α} {r : Except Error α} :
    (pure v : Attempt α).run.Trace trace r ↔ trace = [] ∧ r = .ok v :=
  Iff.rfl

theorem trace_throw {e : Error} {r : Except Error α} :
    (throw e : Attempt α).run.Trace trace r ↔ trace = [] ∧ r = .error e :=
  Iff.rfl

/-- An attempt ends with its first error, and goes on after a success. -/
theorem trace_bind {t : Attempt α} {f : α → Attempt β} :
    (t >>= f).run.Trace trace result ↔
      (∃ e, t.run.Trace trace (.error e) ∧ result = .error e) ∨
        ∃ front v back, t.run.Trace front (.ok v) ∧ trace = front ++ back ∧
          (f v).run.Trace back result := by
  rw [ExceptT.run_bind, Job.trace_bind]
  constructor
  · rintro ⟨front, v, back, first, rfl, last⟩
    cases v with
    | error e =>
      obtain ⟨rfl, rfl⟩ := last
      exact .inl ⟨e, by rwa [List.append_nil], rfl⟩
    | ok v => exact .inr ⟨front, v, back, first, rfl, last⟩
  · rintro (⟨e, first, rfl⟩ | ⟨front, v, back, first, rfl, last⟩)
    · exact ⟨trace, .error e, [], first, (List.append_nil _).symm, rfl, rfl⟩
    · exact ⟨front, .ok v, back, first, rfl, last⟩

/-- An attempt that makes something of its success asks what it asked before. -/
theorem trace_bind_pure {t : Attempt α} {f : α → β} :
    (t >>= fun v => pure (f v)).run.Trace trace result ↔
      ∃ r, t.run.Trace trace r ∧ result = r.map f := by
  rw [trace_bind]
  constructor
  · rintro (⟨e, goes, rfl⟩ | ⟨_, v, _, goes, rfl, rfl, rfl⟩)
    · exact ⟨.error e, goes, rfl⟩
    · exact ⟨.ok v, by rwa [List.append_nil], rfl⟩
  · rintro ⟨e | v, goes, rfl⟩
    · exact .inl ⟨e, goes, rfl⟩
    · exact .inr ⟨trace, v, [], goes, (List.append_nil _).symm, rfl, rfl⟩

/-- A request that fails ends an attempt, and after any other answer it goes on. -/
theorem trace_ask_bind {request : Request} {f : request.Answer → Attempt β} :
    (ask request >>= f).run.Trace trace result ↔
      (∃ e, trace = [⟨request, .error e⟩] ∧ result = .error e) ∨
        ∃ v back, trace = ⟨request, .ok v⟩ :: back ∧ (f v).run.Trace back result := by
  constructor
  · rintro ⟨answer, rest, rfl, goes⟩
    cases answer with
    | error e =>
      obtain ⟨rfl, rfl⟩ := goes
      exact .inl ⟨e, rfl, rfl⟩
    | ok v => exact .inr ⟨v, rest, rfl, goes⟩
  · rintro (⟨e, rfl, rfl⟩ | ⟨v, back, rfl, goes⟩)
    · exact ⟨.error e, [], rfl, rfl, rfl⟩
    · exact ⟨.ok v, back, rfl, goes⟩

theorem trace_valid {x : Except Invalid α} {r : Except Error α} :
    (valid x).run.Trace trace r ↔ trace = [] ∧ r = x.mapError .invalid := by
  cases x <;> exact Iff.rfl

theorem trace_ofExcept {x r : Except Error α} :
    (MonadExcept.ofExcept x : Attempt α).run.Trace trace r ↔ trace = [] ∧ r = x := by
  cases x <;> exact Iff.rfl

theorem trace_lift {t : Job α} {r : Except Error α} :
    (ExceptT.lift t : Attempt α).run.Trace trace r ↔ ∃ v, t.Trace trace v ∧ r = .ok v := by
  rw [ExceptT.run_lift]
  exact Job.trace_map

theorem trace_reportAll_bind {events : List Event} {f : Unit → Attempt β} :
    (reportAll events >>= f).run.Trace trace result ↔ (f ()).run.Trace trace result := by
  rw [ExceptT.run_bind, reportAll, ExceptT.run_lift, bind_map_left]
  exact Job.trace_reportAll_bind

/-- A failing check ends an attempt before it asks anything. -/
theorem trace_valid_bind {x : Except Invalid α} {f : α → Attempt β} :
    (valid x >>= f).run.Trace trace result ↔
      (∃ cause, x = .error cause ∧ trace = [] ∧ result = .error (.invalid cause)) ∨
        ∃ v, x = .ok v ∧ (f v).run.Trace trace result := by
  rw [trace_bind]
  simp only [trace_valid]
  cases x with
  | error cause => simp [Except.mapError]
  | ok v => simp [Except.mapError]

end Attempt

end FluentQuery
