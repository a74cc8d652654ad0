import FluentQuery.Job
import Mathlib.Data.List.Forall2

/-! The value of a job when every request has one answer, whenever and how often it is asked, and
the requests it asks on its way. Jobs side by side cannot disturb each other then, so one after the
other stands for every interleaving; the run of a client is compared with this value elsewhere. -/
namespace FluentQuery

/-! Failing steps -/

section

variable {α β ε : Type}

@[simp] theorem ok_bind (a : α) (f : α → Except ε β) : (.ok a >>= f) = f a := rfl

@[simp] theorem error_bind (e : ε) (f : α → Except ε β) : (.error e >>= f) = .error e := rfl

theorem bind_eq_ok_iff {x : Except ε α} {f : α → Except ε β} {y : β} :
    (x >>= f) = .ok y ↔ ∃ a, x = .ok a ∧ f a = .ok y := by
  cases x <;> simp [bind, Except.bind]

theorem map_eq_ok_iff {x : Except ε α} {f : α → β} {y : β} :
    x.map f = .ok y ↔ ∃ a, x = .ok a ∧ f a = y := by
  cases x <;> simp [Except.map]

theorem mapM_eq_error_iff {f : α → Except ε β} {items : List α} :
    (∃ e, items.mapM f = .error e) ↔ ∃ item ∈ items, ∃ e, f item = .error e := by
  induction items with
  | nil => simp [pure, Except.pure]
  | cons item rest ih =>
    rw [List.mapM_cons, List.exists_mem_cons_iff, ← ih]
    cases first : f item with
    | error e => simp [bind, Except.bind]
    | ok value => cases rest.mapM f <;> simp [bind, Except.bind, pure, Except.pure]

theorem mapM_eq_ok_iff {f : α → Except ε β} {items : List α} {values : List β} :
    items.mapM f = .ok values ↔
      List.Forall₂ (fun item value => f item = .ok value) items values := by
  induction items generalizing values with
  | nil => simp [pure, Except.pure, eq_comm]
  | cons item rest ih =>
    rw [List.mapM_cons, bind_eq_ok_iff]
    constructor
    · rintro ⟨value, first, more⟩
      obtain ⟨others, later, last⟩ := bind_eq_ok_iff.1 more
      obtain rfl : value :: others = values := Except.ok.inj last
      exact .cons first (ih.1 later)
    · intro steps
      cases steps with
      | cons first later => exact ⟨_, first, bind_eq_ok_iff.2 ⟨_, ih.2 later, rfl⟩⟩

/-- A walk whose steps succeed on certain items, each with the value of a function. -/
theorem mapM_eq_ok_map_iff {f : α → Except ε β} {p : α → Prop} {g : α → β}
    (step : ∀ a b, f a = .ok b ↔ p a ∧ b = g a) {items : List α} {values : List β} :
    items.mapM f = .ok values ↔ (∀ a ∈ items, p a) ∧ values = items.map g := by
  rw [mapM_eq_ok_iff]
  induction items generalizing values with
  | nil => simp
  | cons a items ih =>
    rw [List.forall₂_cons_left_iff, List.forall_mem_cons, List.map_cons]
    constructor
    · rintro ⟨b, others, first, later, rfl⟩
      obtain ⟨valid, rfl⟩ := (step a b).1 first
      obtain ⟨each, rfl⟩ := ih.1 later
      exact ⟨⟨valid, each⟩, rfl⟩
    · rintro ⟨⟨valid, each⟩, rfl⟩
      exact ⟨g a, items.map g, (step a _).2 ⟨valid, rfl⟩, ih.2 ⟨each, rfl⟩, rfl⟩

/-- A walk over a list succeeds just when each of its steps does. -/
theorem exists_mapM_eq_ok_iff {f : α → Except ε β} {items : List α} :
    (∃ values, items.mapM f = .ok values) ↔ ∀ item ∈ items, ∃ value, f item = .ok value := by
  constructor
  · rintro ⟨values, walked⟩ item member
    cases step : f item with
    | ok value => exact ⟨value, rfl⟩
    | error e =>
      obtain ⟨e, stuck⟩ := mapM_eq_error_iff.2 ⟨item, member, e, step⟩
      cases stuck.symm.trans walked
  · intro steps
    cases walked : items.mapM f with
    | ok values => exact ⟨values, rfl⟩
    | error e =>
      obtain ⟨item, member, e, step⟩ := mapM_eq_error_iff.1 ⟨e, walked⟩
      obtain ⟨value, works⟩ := steps item member
      cases step.symm.trans works

theorem exists_of_mem_mapM {f : α → Except ε β} {items : List α} {values : List β}
    (walked : items.mapM f = .ok values) {value : β} (member : value ∈ values) :
    ∃ item ∈ items, f item = .ok value := by
  have steps := mapM_eq_ok_iff.1 walked
  induction steps with
  | nil => cases member
  | cons first later ih =>
    rcases List.mem_cons.1 member with rfl | member
    · exact ⟨_, List.mem_cons_self, first⟩
    · obtain ⟨item, among, step⟩ := ih (mapM_eq_ok_iff.2 later) member
      exact ⟨item, List.mem_cons_of_mem _ among, step⟩

end

/-- What is answered to each request, whatever came before it. -/
structure Backend where
  query : Statement → Except Error (List Row)
  execute : Statement → Except Error Nat
  batch : Text → Except Error Unit
  graph : Except Error Graph

def Backend.answer (b : Backend) : (r : Request) → Except Error r.Answer
  | .query _ s => b.query s
  | .execute _ s => b.execute s
  | .batch sql => b.batch sql
  | .graph => b.graph

namespace Job

variable {α β γ : Type} (b : Backend)

def value {α : Type} (b : Backend) : Job α → α
  | .done value => value
  | .note _ next => next.value b
  | .ask request next => (next (b.answer request)).value b
  | .both _ first second next => (next (first.value b, second.value b)).value b

/-- The requests that are asked, those of the first of two jobs before those of the second. -/
def asked {α : Type} (b : Backend) : Job α → List Request
  | .done _ => []
  | .note _ next => next.asked b
  | .ask request next => request :: (next (b.answer request)).asked b
  | .both _ first second next =>
    first.asked b ++ second.asked b ++ (next (first.value b, second.value b)).asked b

/-- Every request that may be asked, whatever is answered, is allowed. -/
def Within {α : Type} (allowed : Request → Prop) : Job α → Prop
  | .done _ => True
  | .note _ next => next.Within allowed
  | .ask request next => allowed request ∧ ∀ answer, (next answer).Within allowed
  | .both _ first second next =>
    first.Within allowed ∧ second.Within allowed ∧ ∀ values, (next values).Within allowed

/-! Values -/

@[simp] theorem value_done (v : α) : (Job.done v).value b = v := rfl

@[simp] theorem value_pure (v : α) : (pure v : Job α).value b = v := rfl

@[simp] theorem value_bind (t : Job α) (f : α → Job β) :
    (t >>= f).value b = (f (t.value b)).value b := by
  change (t.bind f).value b = _
  induction t with
  | done v => rfl
  | note event next ih => exact ih f
  | ask request next ih => exact ih _ f
  | both order first second next _ _ ih => exact ih _ f

@[simp] theorem value_map (f : α → β) (t : Job α) : (f <$> t).value b = f (t.value b) := by
  rw [map_eq_pure_bind, value_bind, value_pure]

@[simp] theorem value_report (event : Event) : (report event).value b = () := rfl

@[simp] theorem value_reportAll (events : List Event) : (reportAll events).value b = () := rfl

theorem value_chain (order : Order) (jobs : List (Job α)) :
    (chain order jobs).value b = jobs.map (value b) := by
  induction jobs with
  | nil => rfl
  | cons job rest ih => simp only [chain, value, ih, List.map_cons]

@[simp] theorem value_all (jobs : List (Job α)) : (all jobs).value b = jobs.map (value b) :=
  value_chain b _ jobs

/-! Requests -/

@[simp] theorem asked_pure (v : α) : (pure v : Job α).asked b = [] := rfl

@[simp] theorem asked_bind (t : Job α) (f : α → Job β) :
    (t >>= f).asked b = t.asked b ++ (f (t.value b)).asked b := by
  change (t.bind f).asked b = _
  induction t with
  | done v => rfl
  | note event next ih => exact ih f
  | ask request next ih => exact congrArg (request :: ·) (ih _ f)
  | both order first second next _ _ ih =>
    have := ih (first.value b, second.value b) f
    simp only [bind, asked, value, this, List.append_assoc]

@[simp] theorem asked_map (f : α → β) (t : Job α) : (f <$> t).asked b = t.asked b := by
  rw [map_eq_pure_bind, asked_bind, asked_pure, List.append_nil]

@[simp] theorem asked_reportAll (events : List Event) : (reportAll events).asked b = [] := by
  induction events with
  | nil => rfl
  | cons event rest ih => exact ih

variable {allowed : Request → Prop}

theorem within_true (t : Job α) : t.Within fun _ => True := by
  induction t with
  | done v => trivial
  | note event next ih => exact ih
  | ask request next ih => exact ⟨trivial, ih⟩
  | both order first second next ihf ihs ih => exact ⟨ihf, ihs, ih⟩

theorem within_bind {t : Job α} {f : α → Job β} (first : t.Within allowed)
    (rest : ∀ v, (f v).Within allowed) : (t >>= f).Within allowed := by
  change (t.bind f).Within allowed
  induction t with
  | done v => exact rest v
  | note event next ih => exact ih first rest
  | ask request next ih => exact ⟨first.1, fun answer => ih answer (first.2 answer) rest⟩
  | both order one two next _ _ ih =>
    exact ⟨first.1, first.2.1, fun values => ih values (first.2.2 values) rest⟩

theorem within_reportAll (events : List Event) : (reportAll events).Within allowed := by
  induction events with
  | nil => trivial
  | cons event rest ih => exact ih

theorem within_chain (order : Order) {jobs : List (Job α)} (each : ∀ t ∈ jobs, t.Within allowed) :
    (chain order jobs).Within allowed := by
  induction jobs with
  | nil => trivial
  | cons job rest ih =>
    obtain ⟨first, later⟩ := List.forall_mem_cons.1 each
    exact ⟨first, ih later, fun _ => trivial⟩

theorem within_imp {weaker : Request → Prop} {t : Job α} (within : t.Within allowed)
    (implies : ∀ r, allowed r → weaker r) : t.Within weaker := by
  induction t with
  | done v => trivial
  | note event next ih => exact ih within
  | ask request next ih => exact ⟨implies _ within.1, fun answer => ih answer (within.2 answer)⟩
  | both order first second next ihf ihs ih =>
    exact ⟨ihf within.1, ihs within.2.1, fun values => ih values (within.2.2 values)⟩

/-- Each request that is asked may be asked. -/
theorem allowed_of_asked {t : Job α} (within : t.Within allowed) {r : Request}
    (member : r ∈ t.asked b) : allowed r := by
  induction t with
  | done v => cases member
  | note event next ih => exact ih within member
  | ask request next ih =>
    rcases List.mem_cons.1 member with rfl | member
    · exact within.1
    · exact ih _ (within.2 _) member
  | both order first second next ihf ihs ih =>
    simp only [asked, List.mem_append] at member
    rcases member with (member | member) | member
    · exact ihf within.1 member
    · exact ihs within.2.1 member
    · exact ih _ (within.2.2 _) member

end Job

/-! Attempts -/

namespace Attempt

variable {α β : Type} (b : Backend)

@[simp] theorem value_run_pure (v : α) : (pure v : Attempt α).run.value b = .ok v := rfl

@[simp] theorem value_run_throw (e : Error) : (throw e : Attempt α).run.value b = .error e := rfl

@[simp] theorem value_run_bind (t : Attempt α) (f : α → Attempt β) :
    (t >>= f).run.value b = t.run.value b >>= fun v => (f v).run.value b := by
  rw [ExceptT.run_bind, Job.value_bind]
  cases t.run.value b <;> rfl

@[simp] theorem value_run_query (kind : StatementKind) (s : Statement) :
    (query kind s).run.value b = b.query s := rfl

@[simp] theorem value_run_execute (kind : StatementKind) (s : Statement) :
    (execute kind s).run.value b = b.execute s := rfl

@[simp] theorem value_run_graph : (ask .graph).run.value b = b.graph := rfl

@[simp] theorem value_run_reportAll (events : List Event) :
    (reportAll events).run.value b = .ok () := by
  rw [reportAll, ExceptT.run_lift, Job.value_map, Job.value_reportAll]

@[simp] theorem value_run_lift (t : Job α) :
    (ExceptT.lift t : Attempt α).run.value b = .ok (t.value b) := by
  rw [ExceptT.run_lift, Job.value_map]

theorem within_run_bind {allowed : Request → Prop} {t : Attempt α} {f : α → Attempt β}
    (first : t.run.Within allowed) (rest : ∀ v, (f v).run.Within allowed) :
    (t >>= f).run.Within allowed := by
  rw [ExceptT.run_bind]
  refine Job.within_bind first fun result => ?_
  cases result with
  | error e => trivial
  | ok v => exact rest v

/-- An attempt that checks something first goes on only with a valid one. -/
theorem within_run_valid_bind {allowed : Request → Prop} {x : Except Invalid α} {f : α → Attempt β}
    (rest : ∀ v, x = .ok v → (f v).run.Within allowed) :
    (valid x >>= f).run.Within allowed := by
  cases x with
  | error cause => trivial
  | ok v => exact rest v rfl

/-- An attempt goes on only after a success. -/
theorem asked_run_bind (t : Attempt α) (f : α → Attempt β) :
    (t >>= f).run.asked b = t.run.asked b ++ match t.run.value b with
      | .ok v => (f v).run.asked b
      | .error _ => [] := by
  rw [ExceptT.run_bind, Job.asked_bind]
  cases t.run.value b <;> rfl

end Attempt

end FluentQuery
