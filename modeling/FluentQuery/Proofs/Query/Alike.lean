import FluentQuery.Proofs.Predicate.Alike
import FluentQuery.Proofs.Query.Template

/-! Values do not reach the SQL. Two queries that differ only in the values of their payload and of
their filters, value by value of the same shape, compile to the same SQL or fail alike, and at each
position they bind the values that stand at one place of both. The same holds for two calls of a
stored function. -/
namespace FluentQuery

variable {R : Json → Json → Prop}

/-- The same keys in the same order, and related values under them, objects against objects. -/
def Row.Alike (R : Json → Json → Prop) : Row → Row → Prop :=
  List.Forall₂ fun a b => a.1 = b.1 ∧ a.2.isObject = b.2.isObject ∧ R a.2 b.2

inductive Action.Alike (R : Json → Json → Prop) : Action → Action → Prop
  | select : Alike R .select .select
  | insert {rows others : List Row} (each : List.Forall₂ (Row.Alike R) rows others) :
    Alike R (.insert rows) (.insert others)
  | upsert {rows others : List Row} (each : List.Forall₂ (Row.Alike R) rows others)
      (options : UpsertOptions) : Alike R (.upsert rows options) (.upsert others options)
  | update {patch other : Row} (alike : patch.Alike R other) :
    Alike R (.update patch) (.update other)
  | delete : Alike R .delete .delete

/-- Queries that are the same but for related values in payload and filters. -/
structure Query.Alike (R : Json → Json → Prop) (q r : Query) : Prop where
  table : q.table = r.table
  action : q.action.Alike R r.action
  columns : q.columns = r.columns
  count : q.count = r.count
  head : q.head = r.head
  filters : q.filters.Alike R r.filters
  orders : q.orders = r.orders
  limit : q.limit = r.limit
  range : q.range = r.range
  deferred : q.deferred = r.deferred

/-- The same SQL, with related parameters at each position. -/
structure Statement.Alike (R : Json → Json → Prop) (s t : Statement) : Prop where
  sql : s.sql = t.sql
  params : List.Forall₂ R s.params t.params

theorem Template.Alike.statement {T U : Template} (alike : T.Alike R U) :
    T.statement.Alike R U.statement :=
  ⟨alike.text_eq 1, alike.values⟩

/-! Payloads -/

namespace Template

variable {row other : Row}

theorem cell_alike {v w : Json} (object : v.isObject = w.isObject) (related : R v w) :
    Alike R (cell v) (cell w) := by
  rw [cell, cell, object]
  refine .value related ?_
  split
  · exact .sql _ .nil
  · exact .nil

theorem members_alike (between : Text) (alike : row.Alike R other) :
    Agree (List.Forall₂ (Alike R)) (members between row) (members between other) := by
  induction alike with
  | nil => exact .ok .nil
  | cons first later ih =>
    obtain ⟨key, object, related⟩ := first
    rw [members, members, key]
    refine Agree.same_bind fun sql => ih.bind fun parts others each => ?_
    exact .ok (.cons (.sql _ (cell_alike object related)) each)

theorem entry_alike (column : Text) (alike : row.Alike R other) :
    Alike R (entry row column) (entry other column) := by
  induction alike with
  | nil => exact .sql _ .nil
  | @cons a b rest others first later ih =>
    obtain ⟨key, object, related⟩ := first
    rw [entry, entry, Row.get?, Row.get?, key]
    by_cases here : b.1 = column
    · simp only [here, if_true]
      exact cell_alike object related
    · simp only [here, if_false]
      exact ih

theorem tuple_alike (columns : List Text) (alike : row.Alike R other) :
    Alike R (tuple columns row) (tuple columns other) := by
  refine .bracketed (.join _ ?_)
  exact List.forall₂_map_left_iff.2 (List.forall₂_map_right_iff.2
    (List.forall₂_same.2 fun column _ => entry_alike column alike))

end Template

theorem Row.keys_alike {row other : Row} (alike : row.Alike R other) :
    Row.keys row = Row.keys other := by
  induction alike with
  | nil => rfl
  | cons first later ih => exact congrArg₂ List.cons first.1 ih

namespace Query

variable {rows others : List Row}

theorem insertColumns_alike (each : List.Forall₂ (Row.Alike R) rows others) :
    insertColumns rows = insertColumns others := by
  have keys : rows.flatMap Row.keys = others.flatMap Row.keys := by
    induction each with
    | nil => rfl
    | cons first later ih => rw [List.flatMap_cons, List.flatMap_cons, Row.keys_alike first, ih]
  rw [insertColumns, insertColumns, keys]

theorem valuesTemplate_alike (each : List.Forall₂ (Row.Alike R) rows others) :
    Agree (Template.Alike R) (valuesTemplate rows) (valuesTemplate others) := by
  rw [valuesTemplate, valuesTemplate, insertColumns_alike each, each.length_eq]
  by_cases none : insertColumns others = []
  · simp only [none, if_true]
    split
    · exact .error _
    · exact .ok (.sql _ .nil)
  · simp only [none, if_false]
    refine Agree.same_bind fun list => .ok (.sql _ (.sql _ (.sql _ (.join _ ?_))))
    exact List.forall₂_map_left_iff.2 (List.forall₂_map_right_iff.2
      (each.imp fun _ _ => Template.tuple_alike _))

/-! Statements -/

variable {q r : Query} (config : Text)

theorem Alike.tableSql (alike : q.Alike R r) : q.tableSql = r.tableSql := by
  rw [Query.tableSql, Query.tableSql, alike.table]

theorem Alike.mainOrders (alike : q.Alike R r) : q.mainOrders = r.mainOrders := by
  rw [Query.mainOrders, Query.mainOrders, alike.orders]

theorem Alike.paging (alike : q.Alike R r) : q.paging = r.paging := by
  rw [Query.paging, Query.paging, alike.range, alike.limit]

theorem whereTemplate_alike (same : ∀ v, R v v) (alike : q.Alike R r) :
    Agree (Template.Alike R) (q.whereTemplate config) (r.whereTemplate config) := by
  refine (FilterSet.predicate_alike config same alike.filters).map fun p s alike => ?_
  rw [clause, clause, alike.empty]
  split
  · exact .nil
  · exact .sql _ alike.body

theorem selectTemplate_alike (same : ∀ v, R v v) (alike : q.Alike R r) (columns : Text) :
    Agree (Template.Alike R) (q.selectTemplate config columns)
      (r.selectTemplate config columns) := by
  rw [selectTemplate, selectTemplate, alike.tableSql, alike.mainOrders, alike.paging]
  refine Agree.same_bind fun table => ?_
  refine (whereTemplate_alike config same alike).bind fun T U condition => ?_
  refine Agree.same_bind fun order => .ok (.sql _ (.sql _ (.sql _ (condition.append ?_))))
  exact .sql _ (.sql _ (.sql _ .nil))

theorem countTemplate_alike (same : ∀ v, R v v) (alike : q.Alike R r) :
    Agree (Template.Alike R) (q.countTemplate config) (r.countTemplate config) := by
  rw [countTemplate, countTemplate, alike.tableSql]
  refine Agree.same_bind fun table => ?_
  refine (whereTemplate_alike config same alike).bind fun T U condition => ?_
  exact .ok (.sql _ (.sql _ (.sql _ (.sql _ condition))))

theorem planTemplate_alike (same : ∀ v, R v v) (alike : q.Alike R r) :
    Agree (Template.Alike R) (q.planTemplate config) (r.planTemplate config) := by
  rw [planTemplate, planTemplate, alike.tableSql]
  refine Agree.same_bind fun table => ?_
  refine (whereTemplate_alike config same alike).bind fun T U condition => ?_
  exact .ok (.sql _ (.sql _ condition))

theorem insertTemplate_alike (alike : q.Alike R r)
    (each : List.Forall₂ (Row.Alike R) rows others) (conflict : Option UpsertOptions)
    (returning : Option Text) :
    Agree (Template.Alike R) (q.insertTemplate rows conflict returning)
      (r.insertTemplate others conflict returning) := by
  have clauses : conflictClause rows conflict = conflictClause others conflict := by
    cases conflict with
    | none => rfl
    | some options => rw [conflictClause, conflictClause, insertColumns_alike each]
  rw [insertTemplate, insertTemplate, alike.tableSql, clauses]
  refine Agree.same_bind fun table => ?_
  refine (valuesTemplate_alike each).bind fun T U values => ?_
  refine Agree.same_bind fun conflict => Agree.same_bind fun returning => ?_
  exact .ok (.sql _ (.sql _ (values.append (.sql _ (.sql _ .nil)))))

theorem updateTemplate_alike (same : ∀ v, R v v) (alike : q.Alike R r) {patch other : Row}
    (row : patch.Alike R other) (returning : Option Text) :
    Agree (Template.Alike R) (q.updateTemplate config patch returning)
      (r.updateTemplate config other returning) := by
  have empty : patch.isEmpty = other.isEmpty := by cases row <;> rfl
  rw [updateTemplate, updateTemplate, alike.tableSql, empty]
  split
  · exact .error _
  · refine (Template.members_alike _ row).bind fun parts others sets => ?_
    refine Agree.same_bind fun table => ?_
    refine (whereTemplate_alike config same alike).bind fun T U condition => ?_
    refine Agree.same_bind fun returning => .ok (.sql _ (.sql _ (.sql _ ?_)))
    exact (Template.Alike.join _ sets).append (condition.append (.sql _ .nil))

theorem deleteTemplate_alike (same : ∀ v, R v v) (alike : q.Alike R r) (returning : Option Text) :
    Agree (Template.Alike R) (q.deleteTemplate config returning)
      (r.deleteTemplate config returning) := by
  rw [deleteTemplate, deleteTemplate, alike.tableSql]
  refine Agree.same_bind fun table => ?_
  refine (whereTemplate_alike config same alike).bind fun T U condition => ?_
  exact Agree.same_bind fun returning => .ok (.sql _ (.sql _ (condition.append (.sql _ .nil))))

theorem mainTemplate_alike (same : ∀ v, R v v) (alike : q.Alike R r) (list : Option Text) :
    Agree (Template.Alike R) (q.mainTemplate config list) (r.mainTemplate config list) := by
  have action := alike.action
  unfold mainTemplate
  generalize q.action = first at action
  generalize r.action = second at action
  cases action with
  | select => exact selectTemplate_alike config same alike _
  | insert each => exact insertTemplate_alike alike each none list
  | upsert each options => exact insertTemplate_alike alike each (some options) list
  | update row => exact updateTemplate_alike config same alike row list
  | delete => exact deleteTemplate_alike config same alike list

theorem plainList_alike (alike : q.Alike R r) : q.plainList = r.plainList := by
  have mutates : q.action.isMutation = r.action.isMutation := by
    have action := alike.action
    generalize q.action = first at action
    generalize r.action = second at action
    cases action <;> rfl
  rw [plainList, plainList, alike.columns, mutates]

/-- Whatever relates the values at corresponding places relates the parameters. -/
theorem statements_related (same : ∀ v, R v v) (alike : q.Alike R r) :
    (∀ list, Agree (Statement.Alike R) (q.mainStatement config list)
      (r.mainStatement config list)) ∧
    Agree (Statement.Alike R) (q.countStatement config) (r.countStatement config) ∧
    Agree (Statement.Alike R) (q.planStatement config) (r.planStatement config) ∧
    Agree (Statement.Alike R) (q.toSql config) (r.toSql config) := by
  have main (list : Option Text) : Agree (Statement.Alike R) (q.mainStatement config list)
      (r.mainStatement config list) := by
    rw [mainStatement_eq, mainStatement_eq]
    exact (mainTemplate_alike config same alike list).map fun _ _ => Template.Alike.statement
  refine ⟨main, ?_, ?_, ?_⟩
  · rw [countStatement_eq, countStatement_eq]
    exact (countTemplate_alike config same alike).map fun _ _ => Template.Alike.statement
  · rw [planStatement_eq, planStatement_eq]
    exact (planTemplate_alike config same alike).map fun _ _ => Template.Alike.statement
  · have written : Agree (Statement.Alike R) (q.plainList >>= q.mainStatement config)
        (r.plainList >>= r.mainStatement config) := by
      rw [plainList_alike alike]
      exact Agree.same_bind main
    rw [toSql, toSql, alike.deferred]
    cases r.deferred with
    | some e => exact .error e
    | none =>
      generalize q.plainList >>= q.mainStatement config = first at written
      generalize r.plainList >>= r.mainStatement config = second at written
      cases written with
      | ok related => exact .ok related
      | error cause => exact .error _

end Query

theorem Routine.statement_related (name : Text) {row other : Row} (alike : row.Alike R other) :
    Agree (Statement.Alike R) (statement name row) (statement name other) := by
  rw [statement_eq, statement_eq, template, template]
  cases Ident.quote name with
  | error fault => exact .error _
  | ok sql =>
    refine ((Template.members_alike " => " alike).map fun parts others each => ?_).map
      fun _ _ => Template.Alike.statement
    exact .sql _ (.sql _ (.bracketed (.join _ each)))

/-! Places -/

def Json.item? (v : Json) (index : Nat) : Option Json :=
  match v with
  | .arr items => items[index]?
  | _ => none

/-- The rows of the payload. -/
def Action.rows : Action → List Row
  | .insert rows | .upsert rows _ => rows
  | .update patch => [patch]
  | .select | .delete => []

/-- Where a value stands in a query. -/
inductive Place where
  /-- A member of a row of the payload. -/
  | cell (row member : Nat)
  | plain (filter : Nat)
  | negated (filter : Nat)
  /-- An item of the list that a filter looks in. -/
  | plainItem (filter item : Nat)
  | negatedItem (filter item : Nat)

namespace Query

def valueAt? (q : Query) : Place → Option Json
  | .cell row member => q.action.rows[row]?.bind fun cells => cells[member]?.map Prod.snd
  | .plain filter => q.filters.plain[filter]?.map Filter.value
  | .negated filter => q.filters.negated[filter]?.map fun n => n.filter.value
  | .plainItem filter item => q.filters.plain[filter]?.bind fun f => f.value.item? item
  | .negatedItem filter item => q.filters.negated[filter]?.bind fun n => n.filter.value.item? item

/-- Values that are equal or stand at one place of both queries. -/
def SamePlace (q r : Query) (v w : Json) : Prop :=
  v = w ∨ ∃ place, q.valueAt? place = some v ∧ r.valueAt? place = some w

end Query

/-- Values that are equal or stand in one place of both rows. -/
def Row.SamePlace (row other : Row) (v w : Json) : Prop :=
  v = w ∨ ∃ member : Nat, row[member]?.map Prod.snd = some v ∧ other[member]?.map Prod.snd = some w

/-- Related items stand at one index of both lists. -/
theorem forall₂_indexed {α β : Type} {P : α → β → Prop} {as : List α} {bs : List β}
    (each : List.Forall₂ P as bs) :
    List.Forall₂ (fun a b => P a b ∧ ∃ i : Nat, as[i]? = some a ∧ bs[i]? = some b) as bs := by
  induction each with
  | nil => exact .nil
  | cons first later ih =>
    refine .cons ⟨first, 0, rfl, rfl⟩ (ih.imp fun a b => ?_)
    rintro ⟨related, i, left, right⟩
    exact ⟨related, i + 1, left, right⟩

variable {S : Json → Json → Prop}

theorem Row.Alike.indexed {row other : Row} (alike : row.Alike R other)
    (there : ∀ (i : Nat) v w, row[i]?.map Prod.snd = some v → other[i]?.map Prod.snd = some w →
      S v w) : row.Alike S other := by
  refine (forall₂_indexed alike).imp fun a b => ?_
  rintro ⟨⟨key, object, -⟩, i, left, right⟩
  exact ⟨key, object, there i a.2 b.2 (by simp [left]) (by simp [right])⟩

theorem Action.Alike.indexed {a b : Action} (alike : a.Alike R b)
    (there : ∀ (i : Nat) row other, a.rows[i]? = some row → b.rows[i]? = some other →
      row.Alike R other → row.Alike S other) : a.Alike S b := by
  have rows {rows others : List Row} (each : List.Forall₂ (Row.Alike R) rows others)
      (there : ∀ (i : Nat) row other, rows[i]? = some row → others[i]? = some other →
        row.Alike R other → row.Alike S other) : List.Forall₂ (Row.Alike S) rows others := by
    refine (forall₂_indexed each).imp fun row other => ?_
    rintro ⟨alike, i, left, right⟩
    exact there i row other left right alike
  cases alike with
  | select => exact .select
  | insert each => exact .insert (rows each there)
  | upsert each options => exact .upsert (rows each there) options
  | update alike => exact .update (there 0 _ _ rfl rfl alike)
  | delete => exact .delete

theorem Operator.Alike.indexed {op : Operator} {v w : Json} (alike : op.Alike R v w)
    (whole : S v w) (items : ∀ i x y, v.item? i = some x → w.item? i = some y → S x y) :
    op.Alike S v w := by
  cases op with
  | is => exact alike
  | among =>
    obtain same | ⟨vs, ws, rfl, rfl, long, -⟩ := alike
    · exact .inl same
    · refine .inr ⟨vs, ws, rfl, rfl, long, fun pair member => ?_⟩
      obtain ⟨i, found⟩ := List.mem_iff_getElem?.1 member
      obtain ⟨left, right⟩ := List.getElem?_zip_eq_some.1 found
      exact items i _ _ left right
  | containedBy | overlaps => exact ⟨whole, alike.2⟩
  | eq | neq | gt | gte | lt | lte | like | ilike | contains | search => exact ⟨whole, alike.2⟩

/-- Queries of the same shape are alike with the values at the same places related. -/
theorem Query.Alike.placed {q r : Query} (alike : q.Alike R r) : q.Alike (q.SamePlace r) r := by
  refine { alike with action := ?_, filters := ⟨?_, alike.filters.groups, ?_⟩ }
  · refine alike.action.indexed fun i row other left right cells => ?_
    refine cells.indexed fun j v w there here => ?_
    exact .inr ⟨.cell i j, by simp [valueAt?, left, there], by simp [valueAt?, right, here]⟩
  · refine (forall₂_indexed alike.filters.plain).imp fun f g => ?_
    rintro ⟨⟨column, op, value⟩, i, left, right⟩
    refine ⟨column, op, value.indexed (.inr ⟨.plain i, ?_, ?_⟩) fun j x y there here => ?_⟩
    · simp [valueAt?, left]
    · simp [valueAt?, right]
    · refine .inr ⟨.plainItem i j, ?_, ?_⟩
      · simp [valueAt?, left, there]
      · simp [valueAt?, right, here]
  · refine (forall₂_indexed alike.filters.negated).imp fun m n => ?_
    rintro ⟨⟨known, column, op, value⟩, i, left, right⟩
    refine ⟨known, column, op, value.indexed (.inr ⟨.negated i, ?_, ?_⟩) fun j x y there here => ?_⟩
    · simp [valueAt?, left]
    · simp [valueAt?, right]
    · refine .inr ⟨.negatedItem i j, ?_, ?_⟩
      · simp [valueAt?, left, there]
      · simp [valueAt?, right, here]

/-- Two queries of the same shape compile to the same SQL, or fail for the same cause; and at each
position they bind values that are equal or stand at one place of both. So do two calls of a stored
function with arguments of the same shape. -/
theorem statements_of_same_shape (config : Text) :
    (∀ q r : Query, q.Alike (fun _ _ => True) r →
      Agree (Statement.Alike (q.SamePlace r)) (q.toSql config) (r.toSql config) ∧
      (∀ list, Agree (Statement.Alike (q.SamePlace r)) (q.mainStatement config list)
        (r.mainStatement config list)) ∧
      Agree (Statement.Alike (q.SamePlace r)) (q.countStatement config) (r.countStatement config) ∧
      Agree (Statement.Alike (q.SamePlace r)) (q.planStatement config) (r.planStatement config)) ∧
    ∀ name (row other : Row), row.Alike (fun _ _ => True) other →
      Agree (Statement.Alike (row.SamePlace other)) (Routine.statement name row)
        (Routine.statement name other) := by
  refine ⟨fun q r alike => ?_, fun name row other alike => ?_⟩
  · obtain ⟨main, count, plan, whole⟩ :=
      Query.statements_related config (fun v => .inl rfl) alike.placed
    exact ⟨whole, main, count, plan⟩
  · exact Routine.statement_related name
      (alike.indexed fun i v w left right => .inr ⟨i, left, right⟩)

/-- Renames the users of some ages who have another name. -/
def renameAges (name : Json) (ages : List Json) : Query :=
  (((Query.ofTable "users").update (.value (.obj [("name", name)]))).restrict "age" .among
    (.value (.arr ages))).not "name" "eq" (.value name)

def renameToAnn : Query :=
  renameAges (.str "ann") [.int 1, .int 2]

def renameToBob : Query :=
  renameAges (.str "bob") [.int 3, .int 2]

def renameToAnnStatement : Statement :=
  ⟨"UPDATE \"users\" SET \"name\" = $1 WHERE \"age\" IN ($2, $3) AND \"name\" != $4",
    [.str "ann", .int 1, .int 2, .str "ann"]⟩

theorem renameToBob_same_shape :
    renameToAnn.Alike (fun _ _ => True) renameToBob ∧
      Row.Alike (fun _ _ => True) [("limit", .int 1)] [("limit", .int 2)] ∧
      (∃ t, renameToBob.toSql "english" = .ok t ∧
        renameToAnnStatement.Alike (renameToAnn.SamePlace renameToBob) t) ∧
      ∃ t, Routine.statement "top" [("limit", .int 2)] = .ok t ∧
        t.sql = "SELECT * FROM \"top\"(\"limit\" => $1)" := by
  have alike : renameToAnn.Alike (fun _ _ => True) renameToBob := by
    refine ⟨rfl, .update (.cons ⟨rfl, rfl, trivial⟩ .nil), rfl, rfl, rfl, ⟨?_, rfl, ?_⟩, rfl, rfl,
      rfl, rfl⟩
    · exact .cons ⟨rfl, rfl, .inr ⟨_, _, rfl, rfl, rfl, fun _ _ => trivial⟩⟩ .nil
    · exact .cons ⟨rfl, rfl, rfl, trivial, rfl⟩ .nil
  have arguments : Row.Alike (fun _ _ => True) [("limit", .int 1)] [("limit", .int 2)] :=
    .cons ⟨rfl, rfl, trivial⟩ .nil
  have written : renameToAnn.toSql "english" = .ok renameToAnnStatement := by decide +kernel
  have called : Routine.statement "top" [("limit", .int 1)] =
      .ok ⟨"SELECT * FROM \"top\"(\"limit\" => $1)", [.int 1]⟩ := by decide +kernel
  obtain ⟨queries, calls⟩ := statements_of_same_shape "english"
  have agree := (queries _ _ alike).1
  have answered := calls "top" _ _ arguments
  rw [written] at agree
  rw [called] at answered
  obtain ⟨t, compiled, same⟩ := answered.exists_ok
  exact ⟨alike, arguments, agree.exists_ok, t, compiled, same.sql.symm⟩

end FluentQuery
