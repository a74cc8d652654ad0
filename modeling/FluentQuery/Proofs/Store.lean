import FluentQuery.Proofs.Projection
import FluentQuery.Proofs.Row
import FluentQuery.Query

/-! Tables behind an executor, and what a select list gives for a stored row. The columns that are
added for joins stand after those of the caller, under keys of their own, and hold the stored
values; taking them out again leaves what the caller selected. -/
namespace FluentQuery

/-- Fixed tables. What a cast or a renamed column gives is left open. -/
structure Store where
  /-- The rows of a table as some terms order them. -/
  rows : Text → List OrderTerm → List Row
  distinct : ∀ table terms, ∀ row ∈ rows table terms, row.Distinct
  derived : Column → Row → Json

/-- The names kept for the keys of joins. -/
def Reserved (name : Text) : Prop :=
  Projection.privateMark <+: name

instance (name : Text) : Decidable (Reserved name) :=
  inferInstanceAs (Decidable (Projection.privateMark <+: name))

namespace Store

variable (store : Store)

/-- The pairs of one column: all stored ones for `*`. -/
def cells (row : Row) (c : Column) : List (Text × Json) :=
  match c.output with
  | none => row
  | some name => [(name, if c.raw then (Row.get? name row).getD .null else store.derived c row)]

/-- The stored value of an added column under its key. -/
def addedCell (row : Row) (a : Projection.Addition) : Text × Json :=
  (a.key, (Row.get? (a.hides.getD a.key) row).getD .null)

def select (columns : List Column) (row : Row) : Row :=
  Row.ofPairs (columns.flatMap (store.cells row))

/-- The row of a select list with additions. -/
def fetch (columns : List Column) (additions : List Projection.Addition) (row : Row) : Row :=
  Row.ofPairs (columns.flatMap (store.cells row) ++ additions.map (addedCell row))

end Store

namespace Store

open Projection (offer missing addition of)

variable {store : Store} {columns : List Column} {required : List Text} {row : Row}

/-! What the caller selected -/

theorem mem_keys_select {key : Text} :
    key ∈ (store.select columns row).keys ↔
      ∃ c ∈ columns, key ∈ (store.cells row c).map Prod.fst := by
  rw [select, Row.ofPairs_eq_putAll, Row.mem_keys_putAll, List.map_flatMap]
  simp

/-- The key of a selected row is an output of a column or, for `*`, a stored key. -/
theorem output_or_stored {key : Text} (member : key ∈ (store.select columns row).keys) :
    (∃ c ∈ columns, c.output = some key) ∨ (offer columns).star = true ∧ key ∈ row.keys := by
  obtain ⟨c, among, found⟩ := mem_keys_select.1 member
  unfold cells at found
  split at found
  · next star =>
    refine .inr ⟨?_, found⟩
    simp only [offer, List.any_eq_true, Option.isNone_iff_eq_none]
    exact ⟨c, among, star⟩
  · next name output =>
    obtain rfl : key = name := by simpa using found
    exact .inl ⟨c, among, output⟩

/-- Each pair under the name of a column on offer holds the stored value. -/
theorem stored_of_mem_cells (distinct : row.Distinct) {column : Text}
    (free : (offer columns).isShadowed column = false) {c : Column} (among : c ∈ columns)
    {v : Json} (member : (column, v) ∈ store.cells row c) :
    v = (Row.get? column row).getD .null := by
  unfold cells at member
  split at member
  · rw [(Row.get?_eq_some_iff distinct).2 member]
    rfl
  · next name output =>
    obtain ⟨rfl, rfl⟩ : column = name ∧ _ := by simpa using member
    by_cases raw : c.raw = true
    · rw [if_pos raw]
    · have renamed : column ∈ (offer columns).renamed :=
        List.mem_filterMap.2 ⟨c, among, by rw [if_neg raw, output]⟩
      simp [Projection.Offer.isShadowed, renamed] at free

/-- A stored column that is on offer is selected. -/
theorem mem_cells_of_has {column : Text} (has : (offer columns).has column = true)
    (stored : column ∈ row.keys) : column ∈ (columns.flatMap (store.cells row)).map Prod.fst := by
  obtain ⟨-, offered⟩ : (offer columns).isShadowed column = false ∧
      ((offer columns).star = true ∨ column ∈ (offer columns).raw) := by
    simpa [Projection.Offer.has] using has
  simp only [List.map_flatMap, List.mem_flatMap]
  rcases offered with star | raw
  · obtain ⟨c, among, none⟩ := List.any_eq_true.1 star
    refine ⟨c, among, ?_⟩
    rw [cells, Option.isNone_iff_eq_none.1 none]
    exact stored
  · obtain ⟨c, among, output⟩ := List.mem_filterMap.1 raw
    refine ⟨c, among, ?_⟩
    split at output
    · rw [cells, output]
      simp
    · cases output

/-- A column that is on offer stands in the selected row as it is stored. -/
theorem get?_select_of_has (distinct : row.Distinct) {column : Text}
    (has : (offer columns).has column = true) :
    (Row.get? column (store.select columns row)).getD .null =
      (Row.get? column row).getD .null := by
  obtain ⟨free, -⟩ : (offer columns).isShadowed column = false ∧
      ((offer columns).star = true ∨ column ∈ (offer columns).raw) := by
    simpa [Projection.Offer.has] using has
  rw [select, Row.ofPairs_eq_putAll]
  by_cases member : column ∈ (columns.flatMap (store.cells row)).map Prod.fst
  · obtain ⟨v, among, got⟩ := Row.get?_putAll_of_mem member []
    obtain ⟨c, inside, pair⟩ := List.mem_flatMap.1 among
    rw [got]
    exact stored_of_mem_cells distinct free inside pair
  · have absent : column ∉ row.keys := fun stored => member (mem_cells_of_has has stored)
    rw [Row.get?_putAll_of_notMem member, Row.get?_eq_none_iff.2 absent]
    rfl

/-! Added columns -/

variable {additions : List Projection.Addition}

/-- Nothing that the caller selects, no required column and no stored one has a reserved name. -/
structure Unreserved (columns : List Column) (required : List Text) (row : Row) : Prop where
  outputs : ∀ c ∈ columns, ∀ name, c.output = some name → ¬ Reserved name
  required : ∀ column ∈ required, ¬ Reserved column
  stored : ∀ key ∈ row.keys, ¬ Reserved key

theorem reserved_append (name : Text) : Reserved (Projection.privateMark ++ name) :=
  List.prefix_append ..

theorem mem_required_of_missing {column : Text}
    (member : column ∈ missing (offer columns) required) :
    column ∈ required ∧ (offer columns).has column = false := by
  simpa [missing] using member

/-- A required column that is not missing is on offer under its own name. -/
theorem own_of_notMem_missing {column : Text} (member : column ∈ required)
    (present : column ∉ missing (offer columns) required) :
    (offer columns).has column = true ∧ (offer columns).keyOf column = column := by
  have has : (offer columns).has column = true := by
    by_contra not
    exact present (by simpa [missing, member] using not)
  have free : (offer columns).isShadowed column = false := by
    simpa using (Bool.and_eq_true_iff.1 has).1
  exact ⟨has, by simp [Projection.Offer.keyOf, free]⟩

/-- The keys of added columns are new to the selected row. -/
theorem keyOf_notMem_select (unreserved : Unreserved columns required row) {column : Text}
    (member : column ∈ missing (offer columns) required) :
    (offer columns).keyOf column ∉ (store.select columns row).keys := by
  obtain ⟨needed, lacking⟩ := mem_required_of_missing member
  intro found
  unfold Projection.Offer.keyOf at found
  split at found
  · rcases output_or_stored found with ⟨c, among, output⟩ | ⟨-, stored⟩
    · exact unreserved.outputs c among _ output (reserved_append column)
    · exact unreserved.stored _ stored (reserved_append column)
  · next free =>
    obtain ⟨noStar, notRaw⟩ : (offer columns).star = false ∧ column ∉ (offer columns).raw := by
      simpa [Projection.Offer.has, free] using lacking
    rcases output_or_stored found with ⟨c, among, output⟩ | ⟨star, -⟩
    · by_cases raw : c.raw = true
      · exact notRaw (List.mem_filterMap.2 ⟨c, among, by rw [if_pos raw, output]⟩)
      · have renamed : column ∈ (offer columns).renamed :=
          List.mem_filterMap.2 ⟨c, among, by rw [if_neg raw, output]⟩
        simp [Projection.Offer.isShadowed, renamed] at free
    · rw [star] at noStar
      cases noStar

/-- Different added columns have different keys. -/
theorem nodup_keys_missing (unreserved : ∀ column ∈ required, ¬ Reserved column) :
    ((missing (offer columns) required).map (offer columns).keyOf).Nodup := by
  have once : (missing (offer columns) required).Nodup := (nodup_eraseDups required).filter _
  refine List.Nodup.map_on (fun x first y second same => ?_) once
  have plainX := unreserved x (mem_required_of_missing first).1
  have plainY := unreserved y (mem_required_of_missing second).1
  unfold Projection.Offer.keyOf at same
  split at same
  · split at same
    · exact List.append_cancel_left same
    · exact absurd (same ▸ reserved_append x) plainY
  · split at same
    · exact absurd (same ▸ reserved_append y) plainX
    · exact same

/-- The added columns of a stored row, under their keys. -/
def extras (columns : List Column) (required : List Text) (row : Row) : Row :=
  (missing (offer columns) required).map fun column =>
    ((offer columns).keyOf column, (Row.get? column row).getD .null)

theorem keys_extras :
    (extras columns required row).keys = (missing (offer columns) required).map
      (offer columns).keyOf := by
  simp [extras, Row.keys]

theorem map_addedCell {o : Projection.Offer} {names : List Text}
    (added : names.mapM (Projection.addition o) = .ok additions) :
    additions.map (addedCell row) =
      names.map fun column => (o.keyOf column, (Row.get? column row).getD .null) := by
  induction mapM_eq_ok_iff.1 added with
  | nil => rfl
  | @cons column a names additions first later ih =>
    obtain ⟨key, hides⟩ := Projection.addition_eq first
    rw [List.map_cons, List.map_cons, ih (mapM_eq_ok_iff.2 later), addedCell, hides, key]
    unfold Projection.Offer.keyOf
    split <;> rfl

section Fetched

variable (unreserved : Unreserved columns required row)
  (added : (missing (offer columns) required).mapM (Projection.addition (offer columns)) =
    .ok additions)

include unreserved

theorem extras_distinct : (extras columns required row).Distinct := by
  rw [Row.Distinct, keys_extras]
  exact nodup_keys_missing unreserved.required

theorem extras_fresh {key : Text} (member : key ∈ (extras columns required row).keys) :
    key ∉ (store.select columns row).keys := by
  rw [keys_extras] at member
  obtain ⟨column, lacking, rfl⟩ := List.mem_map.1 member
  exact keyOf_notMem_select unreserved lacking

include added

/-- A fetched row is what the caller selected and, after it, the added columns. -/
theorem fetch_eq_append :
    store.fetch columns additions row =
      store.select columns row ++ extras columns required row := by
  rw [fetch, Row.ofPairs_eq_putAll, Row.putAll_append, ← Row.ofPairs_eq_putAll, ← select,
    map_addedCell added]
  exact Row.putAll_eq_append (extras_distinct unreserved) fun _ => extras_fresh unreserved

/-- Under its key, a required column has its stored value. -/
theorem get?_fetch (distinct : row.Distinct) {column : Text} (member : column ∈ required) :
    (Row.get? ((offer columns).keyOf column) (store.fetch columns additions row)).getD .null =
      (Row.get? column row).getD .null := by
  rw [fetch_eq_append unreserved added]
  by_cases lacking : column ∈ missing (offer columns) required
  · have listed : ((offer columns).keyOf column, (Row.get? column row).getD .null) ∈
        extras columns required row :=
      List.mem_map_of_mem lacking
    rw [Row.get?_append_of_notMem _ (keyOf_notMem_select unreserved lacking),
      (Row.get?_eq_some_iff (extras_distinct unreserved)).2 listed]
    rfl
  · obtain ⟨has, own⟩ := own_of_notMem_missing member lacking
    have apart : column ∉ (extras columns required row).keys := by
      rw [keys_extras]
      intro found
      obtain ⟨other, among, same⟩ := List.mem_map.1 found
      unfold Projection.Offer.keyOf at same
      split at same
      · exact unreserved.required column member (same ▸ reserved_append other)
      · exact lacking (same ▸ among)
    rw [own, Row.get?_append_of_notMem_right _ apart, get?_select_of_has distinct has]

/-- A required column that is stored is among the keys of the fetched row. -/
theorem keyOf_mem_fetch {column : Text} (member : column ∈ required) (stored : column ∈ row.keys) :
    (offer columns).keyOf column ∈ (store.fetch columns additions row).keys := by
  rw [fetch_eq_append unreserved added, Row.keys_append, List.mem_append]
  by_cases lacking : column ∈ missing (offer columns) required
  · exact .inr (by rw [keys_extras]; exact List.mem_map_of_mem lacking)
  · obtain ⟨has, own⟩ := own_of_notMem_missing member lacking
    rw [own, select, Row.ofPairs_eq_putAll, Row.mem_keys_putAll]
    exact .inl (.inl (mem_cells_of_has has stored))

/-- A stored one is there just as in the stored row. -/
theorem get?_fetch_of_mem (distinct : row.Distinct) {column : Text} (member : column ∈ required)
    (stored : column ∈ row.keys) :
    Row.get? ((offer columns).keyOf column) (store.fetch columns additions row) =
      Row.get? column row := by
  have listed : (offer columns).keyOf column ∈ (store.fetch columns additions row).keys :=
    keyOf_mem_fetch unreserved added member stored
  obtain ⟨v, here⟩ := Row.exists_get? listed
  obtain ⟨w, there⟩ := Row.exists_get? stored
  have same : (some v).getD Json.null = (some w).getD .null := by
    rw [← here, ← there]
    exact get?_fetch unreserved added distinct member
  rw [here, there]
  exact congrArg some same

/-- Without the added columns, a fetched row is what the caller selected. -/
theorem strip_fetch {stripped : List Text}
    (all : ∀ key, key ∈ stripped ↔
      key ∈ (missing (offer columns) required).map (offer columns).keyOf) :
    Relation.strip stripped (store.fetch columns additions row) = store.select columns row := by
  rw [fetch_eq_append unreserved added, Relation.strip_append_of_notMem,
    Relation.strip_eq_nil (extras_distinct unreserved), List.append_nil]
  · intro key member
    rw [keys_extras] at member
    exact (all key).2 member
  · intro key member
    apply extras_fresh unreserved
    rw [keys_extras]
    exact (all key).1 member

end Fetched

end Store

end FluentQuery
