import FluentQuery.Proofs.Job
import FluentQuery.Proofs.Row

/-! What references give each parent. `values` asks for all parents together; over a backend its
outcome is a function of the single parent, `given`, and `finish` works on each row by itself:
`finish_eq` keeps some parents and attaches to each, so that the theorems on references need not
speak of lists of values. -/
namespace FluentQuery.Relation

/-! Attaching to one row -/

/-- What one reference gives each parent, and whether a parent goes when it gets nothing. -/
structure Grant where
  label : Text
  value : Row → Json
  required : Bool

namespace Grant

def pairs (grants : List Grant) (parent : Row) : List (Text × Json) :=
  grants.map fun g => (g.label, g.value parent)

/-- The parent without the stripped keys and with all that it is given. -/
def attach (grants : List Grant) (stripped : List Text) (parent : Row) : Row :=
  Row.putAll (pairs grants parent) (strip stripped parent)

def keeps (grants : List Grant) (stripped : List Text) (parent : Row) : Bool :=
  grants.all fun g => !g.required || isPresent (Row.get? g.label (attach grants stripped parent))

def attachment (g : Grant) (parents : List Row) : Attachment :=
  ⟨g.label, parents.map g.value, g.required⟩

theorem labels_pairs (grants : List Grant) (parent : Row) :
    (pairs grants parent).map Prod.fst = grants.map Grant.label := by
  simp [pairs]

theorem attach_attachment (g : Grant) (parents : List Row) (f : Row → Row) :
    (g.attachment parents).attach (parents.map f) =
      parents.map fun parent => Row.put g.label (g.value parent) (f parent) := by
  simp [Attachment.attach, attachment, List.zipWith_map, List.zipWith_self]

theorem foldl_attach (grants : List Grant) (parents : List Row) (f : Row → Row) :
    (grants.map (attachment · parents)).foldl (fun rows a => a.attach rows) (parents.map f) =
      parents.map fun parent => Row.putAll (pairs grants parent) (f parent) := by
  induction grants generalizing f with
  | nil => rfl
  | cons g rest ih =>
    rw [List.map_cons, List.foldl_cons, attach_attachment, ih]
    rfl

theorem attachAll_eq (grants : List Grant) (stripped : List Text) (parents : List Row) :
    attachAll (grants.map (attachment · parents)) (parents.map (strip stripped)) =
      (parents.filter (keeps grants stripped)).map (attach grants stripped) := by
  unfold attachAll
  rw [foldl_attach, List.filter_map]
  congr 2
  funext parent
  simp only [Function.comp_apply, keeps, List.all_map, List.all_filter, List.filter_map]
  rfl

end Grant

/-- The grant of a relation; without values it is the empty value, which no parent needs. -/
def grant (r : Relation) (given : Option (Row → Json)) : Grant :=
  match given with
  | some value => ⟨r.reference.label, value, r.reference.inner⟩
  | none => ⟨r.reference.label, fun _ => r.emptyValue, false⟩

@[simp] theorem label_grant (r : Relation) (given : Option (Row → Json)) :
    (r.grant given).label = r.reference.label := by
  cases given <;> rfl

theorem attachment_grant (r : Relation) (given : Option (Row → Json)) (parents : List Row) :
    r.attachment parents (given.map fun value => parents.map value) =
      (r.grant given).attachment parents := by
  cases given <;> rfl

/-! Values over a backend -/

theorem jobs_eq_map (relations : List Relation) (parents : List Row) :
    jobs relations parents = relations.map (values · parents) := by
  induction relations with
  | nil => rfl
  | cons r rest ih => rw [jobs, ih, List.map_cons]

/-- The rows of all batches; the first statement that fails is the failure. -/
def found (b : Backend) (l : Lookup) (keys : List Json) : Except Error (List Row) :=
  ((batches l.batchSize keys).mapM fun batch => b.query (l.statement batch)).map List.flatten

theorem value_related (b : Backend) (l : Lookup) (parts : List (List Json)) :
    (related l parts).run.value b =
      (parts.mapM fun batch => b.query (l.statement batch)).map List.flatten := by
  induction parts with
  | nil => rfl
  | cons keys rest ih =>
    rw [related, Attempt.value_run_bind, Attempt.value_run_query, List.mapM_cons]
    cases b.query (l.statement keys) with
    | error e => rfl
    | ok rows =>
      change ((related l rest >>= fun more => pure (rows ++ more)) : Attempt (List Row)).run.value b
        = _
      rw [Attempt.value_run_bind, ih]
      cases rest.mapM fun batch => b.query (l.statement batch) <;> rfl

/-- The related rows that nested references leave, each under the key of its matched value. -/
def keyedRows (b : Backend) (link : Link) (l : Lookup) (nested : List Relation) (rows : List Row) :
    Except Error (List (Text × Row)) :=
  (finish nested l.early rows ((jobs nested rows).map (Job.value b))).mapM (keyed link l)

/-- What a relation gives each parent, or none if it fails. -/
def given (b : Backend) (parents : List Row) : Relation → Option (Row → Json)
  | .unresolved _ => none
  | .broken link _ _ =>
    if distinctKeys link.localKey parents = [] then
      some fun _ => link.plan.direction.emptyValue
    else none
  | .ready link _ lookup nested =>
    if distinctKeys link.localKey parents = [] then
      some fun _ => link.plan.direction.emptyValue
    else
      match found b lookup (distinctKeys link.localKey parents) >>=
          keyedRows b link lookup nested with
      | .error _ => none
      | .ok pairs =>
        some fun parent =>
          gather link.plan.direction (matching pairs (keyIn parent link.localKey))

/-- The values of a relation are what it gives to one parent after the other. -/
theorem value_values (b : Backend) (r : Relation) (parents : List Row) :
    (values r parents).value b = (r.given b parents).map fun value => parents.map value := by
  cases r with
  | unresolved r => rfl
  | broken link notices cause =>
    rw [values, given]
    split
    · rfl
    · simp only [Job.value_bind, Job.value_pure, Option.map_none]
  | ready link notices lookup nested =>
    rw [values, given]
    split
    · rfl
    · simp only [Job.value_bind, value_related]
      rw [← found]
      cases found b lookup (distinctKeys link.localKey parents) with
      | error e => rfl
      | ok rows =>
        have step : (.ok rows >>= keyedRows b link lookup nested) =
            (finish nested lookup.early rows ((jobs nested rows).map (Job.value b))).mapM
              (keyed link lookup) := rfl
        rw [step, Job.value_bind, Job.value_all]
        cases (finish nested lookup.early rows ((jobs nested rows).map (Job.value b))).mapM
          (keyed link lookup) <;> rfl

/-- The grants of some relations of the same parents. -/
def grants (b : Backend) (relations : List Relation) (parents : List Row) : List Grant :=
  relations.map fun r => r.grant (r.given b parents)

@[simp] theorem labels_grants (b : Backend) (relations : List Relation) (parents : List Row) :
    (grants b relations parents).map Grant.label = relations.map (·.reference.label) := by
  simp [grants]

/-- Some parents are kept, and each gets what the relations give it. -/
theorem finish_eq (b : Backend) (relations : List Relation) (stripped : List Text)
    (parents : List Row) :
    finish relations stripped parents ((jobs relations parents).map (Job.value b)) =
      (parents.filter (Grant.keeps (grants b relations parents) stripped)).map
        (Grant.attach (grants b relations parents) stripped) := by
  rw [finish, jobs_eq_map, List.map_map, ← Grant.attachAll_eq]
  congr 1
  rw [List.zipWith_map_right, List.zipWith_self, grants, List.map_map]
  refine List.map_congr_left fun r _ => ?_
  simp only [Function.comp_apply, value_values, attachment_grant]

theorem value_resolve (b : Backend) (relations : List Relation) (stripped : List Text)
    (parents : List Row) :
    (resolve relations stripped parents).value b =
      (parents.filter (Grant.keeps (grants b relations parents) stripped)).map
        (Grant.attach (grants b relations parents) stripped) := by
  rw [resolve, Job.value_bind, Job.value_all, Job.value_pure, finish_eq]

/-! Requests -/

/-- The request of a statement for related rows. -/
def IsRelated (r : Request) : Prop :=
  ∃ s, r = .query .relation s

theorem within_related (l : Lookup) (parts : List (List Json)) :
    (related l parts).run.Within IsRelated := by
  induction parts with
  | nil => trivial
  | cons keys rest ih =>
    rw [related]
    refine Attempt.within_run_bind ⟨⟨_, rfl⟩, fun _ => trivial⟩ fun rows => ?_
    exact Attempt.within_run_bind ih fun _ => trivial

mutual

theorem within_values : (r : Relation) → (parents : List Row) → (values r parents).Within IsRelated
  | .unresolved _, _ => trivial
  | .broken link notices cause, parents => by
    rw [values]
    split
    · trivial
    · exact Job.within_bind (Job.within_reportAll _) fun _ => trivial
  | .ready link notices lookup nested, parents => by
    rw [values]
    split
    · trivial
    · refine Job.within_bind (Job.within_reportAll _) fun _ =>
        Job.within_bind (within_related _ _) fun
        | .error e => trivial
        | .ok rows => Job.within_bind (Job.within_chain _ (within_jobs nested rows)) fun _ => ?_
      split <;> trivial

theorem within_jobs : (relations : List Relation) → (parents : List Row) →
    ∀ t ∈ jobs relations parents, t.Within IsRelated
  | [], _ => fun _ member => nomatch member
  | r :: rest, parents =>
    List.forall_mem_cons.2 ⟨within_values r parents, within_jobs rest parents⟩

end

theorem within_resolve (relations : List Relation) (stripped : List Text) (parents : List Row) :
    (resolve relations stripped parents).Within IsRelated :=
  Job.within_bind (Job.within_chain _ (within_jobs relations parents)) fun _ => trivial

end FluentQuery.Relation
