import FluentQuery.Proofs.Client
import FluentQuery.Proofs.Relation.Values

/-! What resolving references does to a list of rows: which rows go, what stays in the others, and
that a reference that fails gives its empty value and disturbs nothing else. -/
namespace FluentQuery.Relation

variable {b : Backend}

/-! Failing -/

/-- Why a relation gives its parents no values: it has no plan, it cannot be written although
there are keys to look up, a statement of some batch fails, or a related row lacks its key. -/
inductive Fails (b : Backend) (parents : List Row) : Relation → Prop where
  | unresolved (r : Reference) : Fails b parents (.unresolved r)
  | broken (link : Link) (notices : List Event) (cause : Invalid)
      (wanted : distinctKeys link.localKey parents ≠ []) :
      Fails b parents (.broken link notices cause)
  | statement (link : Link) (notices : List Event) (lookup : Lookup) (nested : List Relation)
      {keys : List Json} {e : Error}
      (batch : keys ∈ batches lookup.batchSize (distinctKeys link.localKey parents))
      (failed : b.query (lookup.statement keys) = .error e) :
      Fails b parents (.ready link notices lookup nested)
  | unmatched (link : Link) (notices : List Event) (lookup : Lookup) (nested : List Relation)
      {rows : List Row} {row : Row}
      (wanted : distinctKeys link.localKey parents ≠ [])
      (fetched : found b lookup (distinctKeys link.localKey parents) = .ok rows)
      (member : row ∈ (resolve nested lookup.early rows).value b)
      (lacking : keyIn row lookup.matchKey = none) :
      Fails b parents (.ready link notices lookup nested)

/-- The relation has a plan, but cannot be written as a statement. -/
def IsBroken (r : Relation) : Prop :=
  ∃ link notices cause, r = .broken link notices cause

theorem found_eq_error_iff {l : Lookup} {keys : List Json} :
    (∃ e, found b l keys = .error e) ↔
      ∃ batch ∈ batches l.batchSize keys, ∃ e, b.query (l.statement batch) = .error e := by
  rw [← mapM_eq_error_iff, found]
  cases (batches l.batchSize keys).mapM fun batch => b.query (l.statement batch) <;>
    simp [Except.map]

theorem keyed_eq_error_iff {link : Link} {l : Lookup} {row : Row} :
    (∃ e, keyed link l row = .error e) ↔ keyIn row l.matchKey = none := by
  unfold keyed
  cases keyIn row l.matchKey <;> simp

theorem keyedRows_eq_error_iff {link : Link} {l : Lookup} {nested : List Relation}
    {rows : List Row} :
    (∃ e, keyedRows b link l nested rows = .error e) ↔
      ∃ row ∈ (resolve nested l.early rows).value b, keyIn row l.matchKey = none := by
  rw [keyedRows, mapM_eq_error_iff, value_resolve, ← finish_eq]
  simp only [keyed_eq_error_iff]

theorem batches_nil (size : Nat) : batches size ([] : List Json) = [] := by
  rw [batches, if_pos rfl]

theorem fails_ready_iff {link : Link} {notices : List Event} {l : Lookup} {nested : List Relation}
    {parents : List Row} :
    (ready link notices l nested).Fails b parents ↔ distinctKeys link.localKey parents ≠ [] ∧
      ∃ e, (found b l (distinctKeys link.localKey parents) >>= keyedRows b link l nested) =
        .error e := by
  constructor
  · intro fails
    cases fails with
    | statement _ _ _ _ batch failed =>
      refine ⟨fun none => ?_, ?_⟩
      · rw [none, batches_nil] at batch
        cases batch
      · obtain ⟨e, lost⟩ := found_eq_error_iff.2 ⟨_, batch, _, failed⟩
        exact ⟨e, by rw [lost]; rfl⟩
    | unmatched _ _ _ _ wanted fetched member lacking =>
      refine ⟨wanted, ?_⟩
      rw [fetched]
      exact keyedRows_eq_error_iff.2 ⟨_, member, lacking⟩
  · rintro ⟨wanted, e, lost⟩
    cases fetched : found b l (distinctKeys link.localKey parents) with
    | error e =>
      obtain ⟨batch, member, e, failed⟩ := found_eq_error_iff.1 ⟨e, fetched⟩
      exact .statement _ _ _ _ member failed
    | ok rows =>
      rw [fetched] at lost
      obtain ⟨row, member, lacking⟩ := keyedRows_eq_error_iff.1 ⟨e, lost⟩
      exact .unmatched _ _ _ _ wanted fetched member lacking

theorem fails_broken_iff {link : Link} {notices : List Event} {cause : Invalid}
    {parents : List Row} : (broken link notices cause).Fails b parents ↔
      distinctKeys link.localKey parents ≠ [] :=
  ⟨by rintro ⟨⟩; assumption, .broken _ _ _⟩

/-- A relation has no values just when it fails. -/
theorem value_values_eq_none_iff {r : Relation} {parents : List Row} :
    (values r parents).value b = none ↔ r.Fails b parents := by
  rw [value_values, Option.map_eq_none_iff]
  cases r with
  | unresolved r => exact ⟨fun _ => .unresolved r, fun _ => rfl⟩
  | broken link notices cause =>
    rw [fails_broken_iff, given]
    split <;> simp [*]
  | ready link notices lookup nested =>
    rw [fails_ready_iff, given]
    split
    · next idle => simp [idle]
    · next wanted =>
      cases found b lookup (distinctKeys link.localKey parents) >>=
        keyedRows b link lookup nested <;> simp [wanted]

/-! Rows -/

/-- The relation does not fail, and this is the value that it has for the parent. -/
def Gives (b : Backend) (parents : List Row) (r : Relation) (parent : Row) (v : Json) : Prop :=
  ∃ all, (values r parents).value b = some all ∧ (parent, v) ∈ parents.zip all

/-- Some required relation has nothing for the parent. -/
def Dropped (b : Backend) (relations : List Relation) (parents : List Row) (parent : Row) : Prop :=
  ∃ r ∈ relations, r.reference.inner ∧
    ∃ v, r.Gives b parents parent v ∧ (v = .null ∨ v = .arr [])

/-- A parent as it comes out: the members that are neither stripped nor attached stay in place, the
stripped ones are gone, and every relation has left its value or, if it fails, its empty value. -/
structure Framed (b : Backend) (relations : List Relation) (stripped : List Text)
    (parents : List Row) (parent row : Row) : Prop where
  rest : row.filter (fun pair => pair.1 ∉ stripped ∧ pair.1 ∉ relations.map (·.reference.label)) =
    parent.filter fun pair => pair.1 ∉ stripped ∧ pair.1 ∉ relations.map (·.reference.label)
  gone : ∀ key ∈ stripped, key ∉ relations.map (·.reference.label) → key ∉ row.keys
  attached : ∀ r ∈ relations, ∃ v, Row.get? r.reference.label row = some v ∧
    (r.Gives b parents parent v ∨ r.Fails b parents ∧ v = r.emptyValue)

/-- The rows have one value under the key, and but for this member they are equal. -/
def SameBut (key : Text) (row other : Row) : Prop :=
  Row.get? key row = Row.get? key other ∧ Row.erase key row = Row.erase key other

theorem SameBut.get?_of_ne {key other : Text} {row rest : Row} (same : SameBut key row rest)
    (apart : other ≠ key) : Row.get? other row = Row.get? other rest := by
  rw [← Row.get?_erase_of_ne apart, same.2, Row.get?_erase_of_ne apart]

namespace Grant

variable {given : List Grant}

theorem get?_attach (once : (given.map label).Nodup) {g : Grant} (member : g ∈ given)
    (stripped : List Text) (parent : Row) :
    Row.get? g.label (attach given stripped parent) = some (g.value parent) := by
  apply Row.get?_putAll
  · rwa [labels_pairs]
  · exact List.mem_map_of_mem member

/-- Whether a parent is kept can be told from its values, before they are attached. -/
theorem keeps_eq_all (once : (given.map label).Nodup) (stripped : List Text) (parent : Row) :
    keeps given stripped parent =
      given.all fun g => !g.required || isPresent (some (g.value parent)) := by
  refine Bool.eq_iff_iff.2 ?_
  simp only [keeps, List.all_eq_true]
  refine forall₂_congr fun g member => ?_
  rw [get?_attach once member]

theorem filter_attach (kept : Text → Bool) (stripped : List Text)
    (gone : ∀ key, key ∈ stripped ∨ key ∈ given.map label → kept key = false) (parent : Row) :
    (attach given stripped parent).filter (kept ·.1) = parent.filter (kept ·.1) := by
  rw [attach, Row.filter_putAll, filter_strip]
  · exact fun key member => gone key (.inl member)
  · intro pair member
    apply gone
    rw [← labels_pairs given parent]
    exact .inr (List.mem_map_of_mem member)

theorem notMem_keys_attach {stripped : List Text} {key : Text} {parent : Row}
    (distinct : parent.Distinct) (member : key ∈ stripped) (apart : key ∉ given.map label) :
    key ∉ (attach given stripped parent).keys := by
  rw [attach, Row.mem_keys_putAll, labels_pairs, not_or]
  exact ⟨apart, notMem_keys_strip distinct member⟩

/-- One grant more changes one member only. -/
theorem attach_sameBut {front back : List Grant} {g : Grant}
    (apart : g.label ∉ (front ++ back).map label) (stripped : List Text) (parent : Row) :
    SameBut g.label (attach (front ++ g :: back) stripped parent)
      (Row.put g.label (g.value parent) (attach (front ++ back) stripped parent)) := by
  have later : g.label ∉ (pairs back parent).map Prod.fst := by
    rw [labels_pairs]
    rw [List.map_append, List.mem_append, not_or] at apart
    exact apart.2
  have both : pairs (front ++ back) parent = pairs front parent ++ pairs back parent :=
    List.map_append
  have split : attach (front ++ g :: back) stripped parent = Row.putAll (pairs back parent)
      (Row.put g.label (g.value parent)
        (Row.putAll (pairs front parent) (strip stripped parent))) := by
    simp only [attach, pairs, List.map_append, List.map_cons, Row.putAll_append, Row.putAll_cons]
  constructor
  · rw [split, Row.get?_putAll_of_notMem later, Row.get?_put_self, Row.get?_put_self]
  · rw [split, Row.erase_putAll_of_notMem later, Row.erase_put_self, Row.erase_put_self, attach,
      both, Row.putAll_append, Row.erase_putAll_of_notMem later]

theorem keeps_of_optional {front back : List Grant} {g : Grant} (optional : g.required = false)
    (apart : g.label ∉ (front ++ back).map label) (stripped : List Text) (parent : Row) :
    keeps (front ++ g :: back) stripped parent = keeps (front ++ back) stripped parent := by
  have same := attach_sameBut apart stripped parent
  have reads : ∀ h ∈ front ++ back,
      Row.get? h.label (attach (front ++ g :: back) stripped parent) =
        Row.get? h.label (attach (front ++ back) stripped parent) := by
    intro h member
    have other : h.label ≠ g.label := fun equal => apart (equal ▸ List.mem_map_of_mem member)
    rw [same.get?_of_ne other, Row.get?_put_of_ne other]
  have skipped : keeps (front ++ g :: back) stripped parent = (front ++ back).all fun h =>
      !h.required ||
        isPresent (Row.get? h.label (attach (front ++ g :: back) stripped parent)) := by
    simp [keeps, optional]
  rw [skipped, keeps, Bool.eq_iff_iff, List.all_eq_true, List.all_eq_true]
  refine forall₂_congr fun h member => ?_
  rw [reads h member]

end Grant

/-! What relations give -/

variable {relations : List Relation} {parents : List Row}

theorem gives_iff {r : Relation} {parent : Row} {v : Json} (member : parent ∈ parents) :
    r.Gives b parents parent v ↔ ∃ value, r.given b parents = some value ∧ v = value parent := by
  unfold Gives
  rw [value_values]
  constructor
  · rintro ⟨all, found, paired⟩
    obtain ⟨value, eq, rfl⟩ := Option.map_eq_some_iff.1 found
    rw [← List.map_prod_left_eq_zip, List.mem_map] at paired
    obtain ⟨other, -, same⟩ := paired
    obtain ⟨rfl, rfl⟩ := Prod.mk.inj same
    exact ⟨value, eq, rfl⟩
  · rintro ⟨value, eq, rfl⟩
    refine ⟨parents.map value, by rw [eq]; rfl, ?_⟩
    rw [← List.map_prod_left_eq_zip]
    exact List.mem_map_of_mem member

theorem fails_iff {r : Relation} : r.Fails b parents ↔ r.given b parents = none := by
  rw [← value_values_eq_none_iff, value_values, Option.map_eq_none_iff]

theorem grant_of_fails {r : Relation} (fails : r.Fails b parents) :
    r.grant (r.given b parents) = ⟨r.reference.label, fun _ => r.emptyValue, false⟩ := by
  rw [fails_iff.1 fails]
  rfl

theorem grant_of_broken {link : Link} {notices : List Event} {cause : Invalid}
    (optional : link.reference.inner = false) :
    (broken link notices cause).grant ((broken link notices cause).given b parents) =
      ⟨link.reference.label, fun _ => link.plan.direction.emptyValue, false⟩ := by
  rw [given]
  split
  · rw [← optional]
    rfl
  · rfl

theorem isPresent_eq_false_iff {v : Json} :
    isPresent (some v) = false ↔ v = .null ∨ v = .arr [] := by
  cases v <;> simp [isPresent]

theorem keeps_grants_iff (once : (relations.map (·.reference.label)).Nodup) (stripped : List Text)
    {parent : Row} (member : parent ∈ parents) :
    Grant.keeps (grants b relations parents) stripped parent = true ↔
      ¬ Dropped b relations parents parent := by
  rw [Grant.keeps_eq_all (by rwa [labels_grants]), ← Bool.not_eq_false, not_iff_not, grants,
    List.all_map, List.all_eq_false]
  refine exists_congr fun r => and_congr_right fun _ => ?_
  simp only [gives_iff member, Function.comp_apply]
  cases eq : r.given b parents with
  | none => simp [grant]
  | some value => simp [grant, isPresent_eq_false_iff]

theorem attach_framed (once : (relations.map (·.reference.label)).Nodup) (stripped : List Text)
    {parent : Row} (member : parent ∈ parents) (distinct : parent.Distinct) :
    Framed b relations stripped parents parent
      (Grant.attach (grants b relations parents) stripped parent) where
  rest := by
    refine Grant.filter_attach
      (fun key => decide (key ∉ stripped ∧ key ∉ relations.map (·.reference.label))) stripped
      (fun key either => ?_) parent
    rw [labels_grants] at either
    simpa [or_iff_not_imp_left] using either
  gone := by
    intro key stripped apart
    apply Grant.notMem_keys_attach distinct stripped
    rwa [labels_grants]
  attached := by
    intro r among
    have labels : ((grants b relations parents).map Grant.label).Nodup := by rwa [labels_grants]
    have got := Grant.get?_attach labels (List.mem_map_of_mem among) stripped parent
    rw [label_grant] at got
    refine ⟨_, got, ?_⟩
    rw [gives_iff member, fails_iff]
    cases eq : r.given b parents with
    | none => exact .inr ⟨rfl, rfl⟩
    | some value => exact .inl ⟨value, rfl, rfl⟩

open scoped Classical in
theorem resolve_framed (once : (relations.map (·.reference.label)).Nodup) (stripped : List Text)
    (distinct : ∀ parent ∈ parents, parent.Distinct) :
    List.Forall₂ (Framed b relations stripped parents)
      (parents.filter fun parent => ¬ Dropped b relations parents parent)
      ((resolve relations stripped parents).value b) := by
  have same : (parents.filter fun parent => ¬ Dropped b relations parents parent) =
      parents.filter (Grant.keeps (grants b relations parents) stripped) := by
    refine List.filter_congr fun parent member => ?_
    rw [Bool.eq_iff_iff, decide_eq_true_iff, keeps_grants_iff once stripped member]
  rw [value_resolve, same, List.forall₂_map_right_iff, List.forall₂_same]
  intro parent kept
  have member := List.mem_of_mem_filter kept
  exact attach_framed once stripped member (distinct parent member)

/-- Without a relation that needs no parent to have its value, and gives all of them the empty one,
only its own member is missing. -/
theorem resolve_sameBut {front back : List Relation} {r : Relation}
    (apart : r.reference.label ∉ (front ++ back).map (·.reference.label))
    (idle : r.grant (r.given b parents) = ⟨r.reference.label, fun _ => r.emptyValue, false⟩)
    (stripped : List Text) :
    List.Forall₂ (SameBut r.reference.label)
      ((resolve (front ++ r :: back) stripped parents).value b)
      (((resolve (front ++ back) stripped parents).value b).map
        (Row.put r.reference.label r.emptyValue)) := by
  have all : grants b (front ++ r :: back) parents = grants b front parents ++
      ⟨r.reference.label, fun _ => r.emptyValue, false⟩ :: grants b back parents := by
    rw [grants, List.map_append, List.map_cons, idle]
    rfl
  have others : grants b (front ++ back) parents =
      grants b front parents ++ grants b back parents :=
    List.map_append
  rw [← labels_grants b _ parents, others] at apart
  rw [value_resolve, value_resolve, all, others, List.map_map,
    List.filter_congr fun parent _ => Grant.keeps_of_optional rfl apart stripped parent,
    List.forall₂_map_left_iff, List.forall₂_map_right_iff, List.forall₂_same]
  intro parent _
  exact Grant.attach_sameBut (g := ⟨r.reference.label, fun _ => r.emptyValue, false⟩) apart
    stripped parent

/-- A required relation that cannot be written leaves no parent when there is nothing to look up. -/
theorem resolve_of_idle {front back : List Relation} {link : Link} {notices : List Event}
    {cause : Invalid}
    (apart : link.reference.label ∉ (front ++ back).map (·.reference.label))
    (inner : link.reference.inner = true) (idle : distinctKeys link.localKey parents = [])
    (stripped : List Text) :
    (resolve (front ++ broken link notices cause :: back) stripped parents).value b = [] := by
  have all : grants b (front ++ broken link notices cause :: back) parents =
      grants b front parents ++
        ⟨link.reference.label, fun _ => link.plan.direction.emptyValue, true⟩ ::
          grants b back parents := by
    rw [grants, List.map_append, List.map_cons, given, if_pos idle, grant, ← inner]
    rfl
  have others : grants b (front ++ back) parents =
      grants b front parents ++ grants b back parents :=
    List.map_append
  rw [← labels_grants b _ parents, others] at apart
  rw [value_resolve, all, List.map_eq_nil_iff, List.filter_eq_nil_iff]
  intro parent _ kept
  have got := (Grant.attach_sameBut
    (g := ⟨link.reference.label, fun _ => link.plan.direction.emptyValue, true⟩) apart
    stripped parent).1
  have present := List.all_eq_true.1 kept _ (List.mem_append_right _ List.mem_cons_self)
  simp only [got, Row.get?_put_self, Bool.not_true, Bool.false_or] at present
  revert present
  cases link.plan.direction <;> simp [Direction.emptyValue, isPresent]

/-! Runs -/

open scoped Classical in
/-- References are isolated. Over an executor whose answers depend on the statements alone, the
rows that come out are the parents without those that lack a required value, each framed; and
leaving out a reference that fails changes nothing but its own member, up to the place of its
key. -/
theorem run_resolve_isolated {σ : Type} {c : Client σ} {b : Backend}
    (gives : ∀ s, c.Gives b (.query .relation s)) {relations : List Relation}
    (once : (relations.map (·.reference.label)).Nodup) (stripped : List Text) {parents : List Row}
    (distinct : ∀ parent ∈ parents, parent.Distinct) :
    ∃ rows, (c.run (resolve relations stripped parents)).2 = some rows ∧
      List.Forall₂ (Framed b relations stripped parents)
        (parents.filter fun parent => ¬ Dropped b relations parents parent) rows ∧
      ∀ front r back, relations = front ++ r :: back → r.Fails b parents →
        ∃ without, (c.run (resolve (front ++ back) stripped parents)).2 = some without ∧
          List.Forall₂ (SameBut r.reference.label) rows
            (without.map (Row.put r.reference.label r.emptyValue)) := by
  have runs : ∀ relations, (c.run (resolve relations stripped parents)).2 =
      some ((resolve relations stripped parents).value b) := by
    intro relations
    apply Client.run_eq_value (within_resolve relations stripped parents)
    rintro _ ⟨s, rfl⟩
    exact gives s
  refine ⟨_, runs relations, resolve_framed once stripped distinct, ?_⟩
  rintro front r back rfl fails
  have apart : r.reference.label ∉ (front ++ back).map (·.reference.label) := by
    rw [List.map_append, List.map_cons, List.nodup_middle, List.nodup_cons, ← List.map_append]
      at once
    exact once.1
  exact ⟨_, runs _, resolve_sameBut apart (grant_of_fails fails) stripped⟩

/-- Every statement finds one author. -/
def oneAuthor : Backend where
  query _ := .ok [[("id", .int 7), ("name", .str "ann")]]
  execute _ := .ok 0
  batch _ := .ok ()
  graph := .ok []

/-- A book with a known author and one without, and the references of a query for books. -/
def books : List Row :=
  [[("title", .str "a"), ("author_id", .int 7)], [("title", .str "b"), ("author_id", .null)]]

def bookRelations : List Relation :=
  [.ready ⟨⟨"author", "people", none, true, "name"⟩, ⟨.manyToOne, "author_id", "id", "people"⟩,
      "author_id"⟩ [] ⟨"\"name\", \"id\"", "\"people\"", "\"id\"", [], "id", ["id"], 1000⟩ [],
    .unresolved ⟨"tags", "tags", none, false, ['*']⟩]

open scoped Classical in
theorem run_books_isolated :
    (∀ s, (oneAuthor.client .standard).Gives oneAuthor (.query .relation s)) ∧
    (bookRelations.map (·.reference.label)).Nodup ∧ (∀ book ∈ books, Row.Distinct book) ∧
    ∃ rows, ((oneAuthor.client .standard).run
        (resolve bookRelations ["author_id"] books)).2 = some rows ∧
      List.Forall₂ (Framed oneAuthor bookRelations ["author_id"] books)
        (books.filter fun book => ¬ Dropped oneAuthor bookRelations books book) rows ∧
      ∀ front r back, bookRelations = front ++ r :: back → r.Fails oneAuthor books →
        ∃ without, ((oneAuthor.client .standard).run
            (resolve (front ++ back) ["author_id"] books)).2 = some without ∧
          List.Forall₂ (SameBut r.reference.label) rows
            (without.map (Row.put r.reference.label r.emptyValue)) := by
  have gives : ∀ s, (oneAuthor.client .standard).Gives oneAuthor (.query .relation s) :=
    fun s => oneAuthor.client_gives _ _ nofun
  have once : (bookRelations.map (·.reference.label)).Nodup := by decide
  have distinct : ∀ book ∈ books, Row.Distinct book := by
    unfold Row.Distinct
    decide
  exact ⟨gives, once, distinct, run_resolve_isolated gives once ["author_id"] distinct⟩

end FluentQuery.Relation
