import FluentQuery.Relation
import FluentQuery.Routine
import FluentQuery.Proofs.Predicate.Compiled

/-! The statements of a query, of a reference and of a call as templates. Each template says where
every value is asked for and mentions no number; a statement is its template numbered from one,
and where one cannot be written the other cannot either, for the same cause. -/
namespace FluentQuery

@[simp] theorem Params.next_empty : Params.empty.next = 1 := rfl

@[simp] theorem Params.values_empty : Params.empty.values = [] := rfl

/-! Values -/

namespace Template

/-- A value in a payload; an object is cast. -/
def cell (v : Json) : Template :=
  .value v :: if v.isObject then [.sql "::jsonb"] else []

/-- The members of an object, each with what stands between its quoted name and its value. -/
def members (between : Text) : Row → Except Invalid (List Template)
  | [] => .ok []
  | (name, v) :: rest => do
    let sql ← Projection.quoted name
    let others ← members between rest
    .ok ((.sql (sql ++ between) :: cell v) :: others)

/-- The entry of a row for a column; a missing one gets its default. -/
def entry (row : Row) (column : Text) : Template :=
  match Row.get? column row with
  | some v => cell v
  | none => [.sql "DEFAULT"]

def tuple (columns : List Text) (row : Row) : Template :=
  (join ", " (columns.map (entry row))).bracketed

end Template

open Template

theorem Params.fill_cell (params : Params) (v : Json) :
    params.fill (cell v) = (params.placeholderFor v, params.push v) := by
  unfold cell placeholderFor
  split <;> simp [fill, placeholder, push_eq_pushAll]

/-- Whatever walks over the members of an object and pushes their values fills their templates. -/
theorem Template.members_of_steps {between : Text}
    {walk : Row → Params → Except Invalid (List Text × Params)}
    (nil : ∀ params, walk [] params = .ok ([], params))
    (cons : ∀ name v rest params, walk ((name, v) :: rest) params = do
      let sql ← Projection.quoted name
      let (texts, after) ← walk rest (params.push v)
      .ok ((sql ++ between ++ params.placeholderFor v) :: texts, after))
    (row : Row) (params : Params) : walk row params = (members between row).map params.fillAll := by
  induction row generalizing params with
  | nil => rw [nil, members, Except.map, Params.fillAll_nil]
  | cons pair rest ih =>
    rw [cons, members]
    cases Projection.quoted pair.1 with
    | error cause => rfl
    | ok sql =>
      simp only [ok_bind, ih]
      cases members between rest with
      | error cause => rfl
      | ok others => simp [Except.map, Params.fillAll_cons, Params.fill_sql, Params.fill_cell]

namespace Query

theorem rowValues_eq_fillAll (row : Row) (columns : List Text) (params : Params) :
    rowValues row columns params = params.fillAll (columns.map (entry row)) := by
  induction columns generalizing params with
  | nil => rw [rowValues, List.map_nil, Params.fillAll_nil]
  | cons column rest ih =>
    rw [rowValues, List.map_cons, Params.fillAll_cons]
    cases found : Row.get? column row with
    | none =>
      have skipped : entry row column = [.sql "DEFAULT"] := by rw [entry, found]
      simp [skipped, ih, Params.fill]
    | some v =>
      have filled : entry row column = cell v := by rw [entry, found]
      simp only [filled, Params.fill_cell, ih]

theorem tuples_eq_fillAll (columns : List Text) (rows : List Row) (params : Params) :
    tuples columns rows params = params.fillAll (rows.map (tuple columns)) := by
  induction rows generalizing params with
  | nil => rw [tuples, List.map_nil, Params.fillAll_nil]
  | cons row rest ih =>
    rw [tuples, List.map_cons, Params.fillAll_cons]
    simp [rowValues_eq_fillAll, ih, tuple, Params.fill, Params.fillAll]

theorem assignments_eq_fillAll (row : Row) (params : Params) :
    assignments row params = (members " = " row).map params.fillAll :=
  members_of_steps (fun _ => rfl) (fun _ _ _ _ => rfl) row params

/-! Clauses -/

/-- The WHERE clause of a predicate, or nothing if it is empty. -/
def clause (p : Predicate) : Template :=
  if p.isEmpty then [] else .sql " WHERE " :: p.template

def whereTemplate (q : Query) (config : Text) : Except Invalid Template :=
  (q.filters.predicate config).map clause

theorem whereSql_eq_fill (q : Query) (config : Text) (params : Params) :
    q.whereSql config params = (q.whereTemplate config).map params.fill := by
  rw [whereSql, whereTemplate, FilterSet.build]
  cases q.filters.predicate config with
  | error cause => rfl
  | ok p =>
    by_cases empty : p.isEmpty = true
    · simp [Except.map, clause, Predicate.build_of_isEmpty empty, empty, Params.fill]
    · simp [Except.map, clause, Predicate.build_eq_fill, empty, Params.fill,
        Predicate.text_template_eq_nil_iff]

/-! Statements -/

def selectTemplate (q : Query) (config columns : Text) : Except Invalid Template := do
  let table ← q.tableSql
  let condition ← q.whereTemplate config
  let order ← orderBySql q.mainOrders
  .ok (.sql (if columns = [] then "SELECT" else "SELECT " ++ columns) :: .sql " FROM " ::
    .sql table :: condition ++ [.sql order, .sql (numberClause "LIMIT" q.paging.1),
      .sql (numberClause "OFFSET" q.paging.2)])

def countTemplate (q : Query) (config : Text) : Except Invalid Template := do
  let table ← q.tableSql
  let condition ← q.whereTemplate config
  .ok (.sql "SELECT COUNT(*) AS " :: .sql (Ident.quotePart "count") :: .sql " FROM " ::
    .sql table :: condition)

def planTemplate (q : Query) (config : Text) : Except Invalid Template := do
  let table ← q.tableSql
  let condition ← q.whereTemplate config
  .ok (.sql "EXPLAIN (FORMAT JSON) SELECT 1 FROM " :: .sql table :: condition)

/-- One tuple for each row, with one entry for each column. -/
def valuesTemplate (rows : List Row) : Except Invalid Template := do
  let columns := insertColumns rows
  if columns = [] then
    if 1 < rows.length then .error .rowsWithoutColumns else .ok [.sql " DEFAULT VALUES"]
  else
    let list ← columnList columns
    .ok (.sql " " :: .sql (Predicate.bracketed list) :: .sql " VALUES " ::
      Template.join ", " (rows.map (tuple columns)))

def conflictClause (rows : List Row) : Option UpsertOptions → Except Invalid Text
  | some options => conflictSql (insertColumns rows) options
  | none => .ok []

def insertTemplate (q : Query) (rows : List Row) (conflict : Option UpsertOptions)
    (returning : Option Text) : Except Invalid Template := do
  let table ← q.tableSql
  let values ← valuesTemplate rows
  let conflict ← conflictClause rows conflict
  let returning ← returningSql returning
  .ok (.sql "INSERT INTO " :: .sql table :: values ++ [.sql conflict, .sql returning])

def updateTemplate (q : Query) (config : Text) (patch : Row) (returning : Option Text) :
    Except Invalid Template :=
  if patch.isEmpty then .error .emptyPatch
  else do
    let sets ← members " = " patch
    let table ← q.tableSql
    let condition ← q.whereTemplate config
    let returning ← returningSql returning
    .ok (.sql "UPDATE " :: .sql table :: .sql " SET " :: Template.join ", " sets ++
      (condition ++ [.sql returning]))

def deleteTemplate (q : Query) (config : Text) (returning : Option Text) :
    Except Invalid Template := do
  let table ← q.tableSql
  let condition ← q.whereTemplate config
  let returning ← returningSql returning
  .ok (.sql "DELETE FROM " :: .sql table :: condition ++ [.sql returning])

def mainTemplate (q : Query) (config : Text) (list : Option Text) : Except Invalid Template :=
  match q.action with
  | .select => q.selectTemplate config (list.getD ['*'])
  | .insert rows => q.insertTemplate rows none list
  | .upsert rows options => q.insertTemplate rows (some options) list
  | .update patch => q.updateTemplate config patch list
  | .delete => q.deleteTemplate config list

/-! Numbering -/

variable (q : Query) (config : Text)

theorem selectStatement_eq (columns : Text) :
    q.selectStatement config columns =
      (q.selectTemplate config columns).map Template.statement := by
  unfold selectStatement selectTemplate
  rw [whereSql_eq_fill]
  cases q.tableSql with
  | error cause => rfl
  | ok table =>
    cases q.whereTemplate config with
    | error cause => rfl
    | ok condition =>
      cases orderBySql q.mainOrders with
      | error cause => rfl
      | ok order =>
        have bare : ("SELECT FROM " : Text) = "SELECT" ++ " FROM " := by decide
        by_cases none : columns = [] <;>
          simp [Except.map, Template.statement, Params.fill_empty, none, bare, -String.reduceToList]

theorem countStatement_eq :
    q.countStatement config = (q.countTemplate config).map Template.statement := by
  unfold countStatement countTemplate
  rw [whereSql_eq_fill]
  cases q.tableSql with
  | error cause => rfl
  | ok table =>
    cases q.whereTemplate config with
    | error cause => rfl
    | ok condition =>
      have label : ("SELECT COUNT(*) AS \"count\" FROM " : Text) =
        "SELECT COUNT(*) AS " ++ (Ident.quotePart "count" ++ " FROM ") := by decide
      simp [Except.map, Template.statement, Params.fill_empty, label, -String.reduceToList]

theorem planStatement_eq :
    q.planStatement config = (q.planTemplate config).map Template.statement := by
  unfold planStatement planTemplate
  rw [whereSql_eq_fill]
  cases q.tableSql with
  | error cause => rfl
  | ok table =>
    cases q.whereTemplate config with
    | error cause => rfl
    | ok condition =>
      simp [Except.map, Template.statement, Params.fill_empty, -String.reduceToList]

theorem valuesSql_eq (rows : List Row) :
    valuesSql rows = (valuesTemplate rows).map Params.empty.fill := by
  unfold valuesSql valuesTemplate
  by_cases none : insertColumns rows = []
  · simp only [none, if_true]
    split
    · rfl
    · simp only [Except.map, Params.fill_sql, Params.fill_nil, List.append_nil]
  · simp only [none, if_false]
    cases columnList (insertColumns rows) with
    | error cause => rfl
    | ok list =>
      simp only [ok_bind, Except.map, Params.fill_sql, Params.fill_join, tuples_eq_fillAll,
        List.append_assoc]

theorem insertStatement_eq (rows : List Row) (conflict : Option UpsertOptions)
    (returning : Option Text) : q.insertStatement rows conflict returning =
      (q.insertTemplate rows conflict returning).map Template.statement := by
  have clauses : q.insertStatement rows conflict returning = (do
      let table ← q.tableSql
      let filled ← valuesSql rows
      let conflict ← conflictClause rows conflict
      let returning ← returningSql returning
      .ok ⟨"INSERT INTO " ++ table ++ filled.1 ++ conflict ++ returning, filled.2.values⟩) := by
    cases conflict <;> rfl
  rw [clauses, valuesSql_eq]
  unfold insertTemplate
  cases q.tableSql with
  | error cause => rfl
  | ok table =>
    cases valuesTemplate rows with
    | error cause => rfl
    | ok values =>
      cases conflictClause rows conflict with
      | error cause => rfl
      | ok conflict =>
        cases returningSql returning with
        | error cause => rfl
        | ok returning =>
          simp [Except.map, Template.statement, Params.fill_empty, -String.reduceToList]

theorem updateStatement_eq (patch : Row) (returning : Option Text) :
    q.updateStatement config patch returning =
      (q.updateTemplate config patch returning).map Template.statement := by
  unfold updateStatement updateTemplate
  split
  · rfl
  · rw [assignments_eq_fillAll]
    cases members " = " patch with
    | error cause => rfl
    | ok sets =>
      cases q.tableSql with
      | error cause => rfl
      | ok table =>
        simp only [Except.map, ok_bind, whereSql_eq_fill]
        cases q.whereTemplate config with
        | error cause => rfl
        | ok condition =>
          cases returningSql returning with
          | error cause => rfl
          | ok returning =>
            simp [Template.statement, Params.fill, Params.fillAll, -String.reduceToList]

theorem deleteStatement_eq (returning : Option Text) : q.deleteStatement config returning =
    (q.deleteTemplate config returning).map Template.statement := by
  unfold deleteStatement deleteTemplate
  rw [whereSql_eq_fill]
  cases q.tableSql with
  | error cause => rfl
  | ok table =>
    cases q.whereTemplate config with
    | error cause => rfl
    | ok condition =>
      cases returningSql returning with
      | error cause => rfl
      | ok returning =>
        simp [Except.map, Template.statement, Params.fill_empty, -String.reduceToList]

/-- The main statement is its template, numbered from one. -/
theorem mainStatement_eq (list : Option Text) :
    q.mainStatement config list = (q.mainTemplate config list).map Template.statement := by
  unfold mainStatement mainTemplate
  cases q.action with
  | select => exact selectStatement_eq q config _
  | insert rows => exact insertStatement_eq q rows none list
  | upsert rows options => exact insertStatement_eq q rows (some options) list
  | update patch => exact updateStatement_eq q config patch list
  | delete => exact deleteStatement_eq q config list

end Query

namespace Lookup

/-- The keys that a reference looks up. -/
def template (l : Lookup) (keys : List Json) : Template :=
  .sql "SELECT " :: .sql l.columns :: .sql " FROM " :: .sql l.table :: .sql " WHERE " ::
    .sql l.column :: .sql " IN " :: (Template.join ", " (keys.map fun v => [.value v])).bracketed ++
    [.sql l.order]

theorem statement_eq (l : Lookup) (keys : List Json) :
    l.statement keys = (l.template keys).statement := by
  have numbered : texts 1 (keys.map fun v => ([.value v] : Template)) =
      (List.range keys.length).map fun i => '$' :: Nat.toDigits 10 (i + 1) := by
    simp only [texts_values, Nat.add_comm 1]
  unfold statement template Template.statement
  congr 1
  · simp only [text_append, text_sql, text_bracketed, text_join, numbered, text_nil,
      List.append_nil, List.append_assoc]
  · simp only [values_append, values_sql, values_bracketed, values_join, flatMap_values,
      values_nil,
      List.append_nil]

end Lookup

namespace Routine

def template (name : Text) (row : Row) : Except Invalid Template :=
  match Ident.quote name with
  | .error fault => .error (.routine name fault)
  | .ok sql => (members " => " row).map fun arguments =>
    .sql "SELECT * FROM " :: .sql sql :: (Template.join ", " arguments).bracketed

theorem named_eq_fillAll (row : Row) (params : Params) :
    named row params = (members " => " row).map params.fillAll :=
  members_of_steps (fun _ => rfl) (fun _ _ _ _ => rfl) row params

theorem statement_eq (name : Text) (row : Row) :
    statement name row = (template name row).map Template.statement := by
  unfold statement template
  cases Ident.quote name with
  | error fault => rfl
  | ok sql =>
    simp only [named_eq_fillAll]
    cases members " => " row with
    | error cause => rfl
    | ok arguments => simp [Except.map, Template.statement, Params.fillAll]

end Routine

end FluentQuery
