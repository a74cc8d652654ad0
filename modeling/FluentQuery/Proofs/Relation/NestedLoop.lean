import FluentQuery.Proofs.Relation.Frame
import FluentQuery.Proofs.Relation.Keys
import FluentQuery.Proofs.Store

/-! Joining row by row. For each source row by itself the rows of a table are taken that hold its
value, and each of them is given the values of its own references in the same way. Nothing here
gathers keys, adds columns or forms batches, and the order of the rows and what becomes of them are
said here anew; the batched code gives the same rows wherever the statements of all references are
answered from one store. -/
namespace FluentQuery

namespace Selection

/-- The columns of a select list that can be read. -/
def plain (s : Selection) : List Column :=
  (s.columnTokens.mapM Column.parse).toOption.getD []

end Selection

namespace NestedLoop

/-- Whether a term orders the rows of a reference: it names the reference or its table. -/
def orders (r : Reference) (t : OrderTerm) : Bool :=
  t.options.foreignTable.any fun name => name = r.label || name = r.table

theorem filter_orders (r : Reference) (terms : List OrderTerm) :
    terms.filter (orders r) = Lookup.orders terms r := by
  refine List.filter_congr fun t _ => ?_
  unfold orders
  cases t.options.foreignTable <;> simp

end NestedLoop

/-- The rows of the table that a reference leads to, in its order. -/
def Store.relatedRows (store : Store) (terms : List OrderTerm) (plan : Plan) (r : Reference) :
    List Row :=
  store.rows plan.foreignTable (terms.filter (NestedLoop.orders r))

/-- The rows are in the order of the statements for the reference. -/
theorem Store.relatedRows_eq (store : Store) (terms : List OrderTerm) (plan : Plan)
    (r : Reference) :
    store.relatedRows terms plan r = store.rows plan.foreignTable (Lookup.orders terms r) := by
  rw [relatedRows, NestedLoop.filter_orders]

namespace NestedLoop

/-- The rows with the value in the column; null is in none of them. -/
def partners (column : Text) (v : Json) (rows : List Row) : List Row :=
  if v = .null then [] else rows.filter fun row => Row.get? column row = some v

/-- Whether a row goes because of a reference that is inner and has a plan. -/
def lacks (r : Reference) (v : Option Json) : Bool :=
  r.inner && (v = some .null || v = some (.arr []))

/-- The row with the values of its references, unless it lacks one; without a plan it is null. -/
def joined (values : List (Reference × Option Json)) (row : Row) : Option Row :=
  if values.any fun x => lacks x.1 x.2 then none
  else some (Row.putAll (values.map fun x => (x.1.label, x.2.getD .null)) row)

/-- All related rows, or the first of them where a row has one at most. -/
def related (direction : Direction) (rows : List Row) : Json :=
  match direction, rows with
  | .oneToMany, rows => .arr (rows.map .obj)
  | .manyToOne, first :: _ => .obj first
  | .manyToOne, [] => .null

theorem related_eq_gather (direction : Direction) (rows : List Row) :
    related direction rows = Relation.gather direction (rows.map .obj) := by
  cases direction <;> cases rows <;> rfl

variable (store : Store) (g : Graph) (guessing : Bool) (terms : List OrderTerm)

/-- What a reference gives one row of `source`, of which `cell` reads the columns. -/
def valueOf (source : Text) (cell : Text → Json) (r : Reference) : Option Json :=
  match (Resolution.resolve g guessing source r).plan? with
  | none => none
  | some plan =>
    let body := Selection.parse r.body
    let found :=
      partners plan.foreignColumn (cell plan.localColumn) (store.relatedRows terms plan r)
    some (related plan.direction (found.filterMap fun row =>
      joined
        (body.references.attach.map fun ⟨s, _h⟩ =>
          (s, valueOf plan.foreignTable (fun column => (Row.get? column row).getD .null) s))
        (store.select body.plain row)))
termination_by r.body.length
decreasing_by exact Selection.length_of_mem_parse _h

/-- A row with what its references give it, or nothing. -/
def join (source : Text) (cell : Text → Json) (references : List Reference) (row : Row) :
    Option Row :=
  joined (references.map fun r => (r, valueOf store g guessing terms source cell r)) row

variable {store g guessing terms} {source : Text} {cell : Text → Json} {r : Reference}

theorem valueOf_of_unplanned (unplanned : (Resolution.resolve g guessing source r).plan? = none) :
    valueOf store g guessing terms source cell r = none := by
  rw [valueOf, unplanned]

theorem valueOf_of_planned {plan : Plan}
    (planned : (Resolution.resolve g guessing source r).plan? = some plan) :
    valueOf store g guessing terms source cell r =
      some (related plan.direction
        ((partners plan.foreignColumn (cell plan.localColumn)
          (store.relatedRows terms plan r)).filterMap fun row =>
            join store g guessing terms plan.foreignTable
              (fun column => (Row.get? column row).getD .null) (Selection.parse r.body).references
              (store.select (Selection.parse r.body).plain row))) := by
  rw [valueOf, planned]
  simp only [join, List.map_attach_eq_pmap, List.pmap_eq_map]

end NestedLoop

/-! Sources that answer from a store -/

namespace Relation

open Projection (offer missing addition)

/-- The columns that a body must carry for its match and for its references. -/
def neededColumns (g : Graph) (guessing : Bool) (plan : Plan) (r : Reference) : List Text :=
  plan.foreignColumn ::
    localColumns g guessing plan.foreignTable (Selection.parse r.body).references

/-- A reference along a plan whose body renders, has no label twice, none that is the matched
column and no reserved name, and whose statements are answered from the store, in the order that
they ask for. -/
structure Served (store : Store) (b : Backend) (g : Graph) (config : Config)
    (terms : List OrderTerm) (plan : Plan) (r : Reference) : Prop where
  labels : ((Selection.parse r.body).references.map Reference.label).Nodup
  apart : ∀ s ∈ (Selection.parse r.body).references, s.label ≠ plan.foreignColumn
  plain : ∀ s ∈ (Selection.parse r.body).references, ¬ Reserved s.label
  unreserved : ∀ row ∈ store.rows plan.foreignTable (Lookup.orders terms r),
    Store.Unreserved (Selection.parse r.body).plain (neededColumns g config.guessKeys plan r) row
  answered : ∃ l p additions,
    Lookup.make config terms ⟨r, plan, plan.localColumn⟩ (Selection.parse r.body)
      (localColumns g config.guessKeys plan.foreignTable (Selection.parse r.body).references) =
        .ok (l, p) ∧
    (missing (offer (Selection.parse r.body).plain) (neededColumns g config.guessKeys plan r)).mapM
      (addition (offer (Selection.parse r.body).plain)) = .ok additions ∧
    ∀ keys, keys ≠ [] → b.query (l.statement keys) =
      .ok ((having plan.foreignColumn keys
        (store.rows plan.foreignTable (Lookup.orders terms r))).map
          (store.fetch (Selection.parse r.body).plain additions))

/-- A tree of references, all of whose plans are served. -/
inductive Sound (store : Store) (b : Backend) (g : Graph) (config : Config)
    (terms : List OrderTerm) : Text → Reference → Prop where
  | unplanned {source : Text} {r : Reference}
      (unplanned : (Resolution.resolve g config.guessKeys source r).plan? = none) :
      Sound store b g config terms source r
  | planned {source : Text} {r : Reference} {plan : Plan}
      (planned : (Resolution.resolve g config.guessKeys source r).plan? = some plan)
      (served : Served store b g config terms plan r)
      (nested : ∀ s ∈ (Selection.parse r.body).references,
        Sound store b g config terms plan.foreignTable s) :
      Sound store b g config terms source r

end Relation

end FluentQuery
