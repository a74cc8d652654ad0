import FluentQuery.Projection
import FluentQuery.Query
import FluentQuery.Statement

/-! The SQL of a query. Payload values get the first placeholders and filters go on from there;
LIMIT and OFFSET are written as numbers. -/
namespace FluentQuery

namespace Query

def tableSql (q : Query) : Except Invalid Text :=
  match Ident.quote q.table with
  | .ok sql => .ok sql
  | .error fault => .error (.table q.table fault)

/-- The WHERE clause, or nothing without filters, and the parameters after it. -/
def whereSql (q : Query) (config : Text) (params : Params) : Except Invalid (Text × Params) :=
  (q.filters.build config params).map fun (predicate, after) =>
    (if predicate = [] then [] else " WHERE " ++ predicate, after)

def orderSql (t : OrderTerm) : Except Invalid Text :=
  match Ident.quote t.column with
  | .error fault => .error (.orderColumn t.column fault)
  | .ok sql =>
    let nulls : Text := match t.options.nullsFirst with
      | some true => " NULLS FIRST"
      | some false => " NULLS LAST"
      | none => []
    .ok (sql ++ (if t.options.ascending then " ASC" else " DESC") ++ nulls)

/-- The ORDER BY clause, or nothing without terms. -/
def orderBySql (terms : List OrderTerm) : Except Invalid Text :=
  (terms.mapM orderSql).map fun texts =>
    if texts = [] then [] else " ORDER BY " ++ Text.join ", " texts

def numberClause (word : Text) (n : Option Nat) : Text :=
  match n with
  | some n => " " ++ word ++ " " ++ Nat.toDigits 10 n
  | none => []

def selectStatement (q : Query) (config columns : Text) : Except Invalid Statement := do
  let table ← q.tableSql
  let (condition, params) ← q.whereSql config .empty
  let order ← orderBySql q.mainOrders
  let list : Text := if columns = [] then "SELECT FROM " else "SELECT " ++ columns ++ " FROM "
  .ok ⟨list ++ table ++ condition ++ order ++
    numberClause "LIMIT" q.paging.1 ++ numberClause "OFFSET" q.paging.2, params.values⟩

def countStatement (q : Query) (config : Text) : Except Invalid Statement := do
  let table ← q.tableSql
  let (condition, params) ← q.whereSql config .empty
  .ok ⟨"SELECT COUNT(*) AS \"count\" FROM " ++ table ++ condition, params.values⟩

/-- Asks the planner for its estimate. -/
def planStatement (q : Query) (config : Text) : Except Invalid Statement := do
  let table ← q.tableSql
  let (condition, params) ← q.whereSql config .empty
  .ok ⟨"EXPLAIN (FORMAT JSON) SELECT 1 FROM " ++ table ++ condition, params.values⟩

/-- The keys of all rows, each once, in the order in which they first appear. -/
def insertColumns (rows : List Row) : List Text :=
  (rows.flatMap Row.keys).eraseDups

/-- The values of a row for the columns; a missing one gets its default. -/
def rowValues (row : Row) : List Text → Params → List Text × Params
  | [], params => ([], params)
  | column :: rest, params =>
    match Row.get? column row with
    | some v =>
      let (texts, after) := rowValues row rest (params.push v)
      (params.placeholderFor v :: texts, after)
    | none =>
      let (texts, after) := rowValues row rest params
      ("DEFAULT" :: texts, after)

def tuples (columns : List Text) : List Row → Params → List Text × Params
  | [], params => ([], params)
  | row :: rest, params =>
    let (values, params) := rowValues row columns params
    let (texts, after) := tuples columns rest params
    (Predicate.bracketed (Text.join ", " values) :: texts, after)

/-- The columns of the conflict target; `id` unless some are named. -/
def conflictTarget (options : UpsertOptions) : List Text :=
  let named := match options.onConflict with
    | some t => ((Text.splitOn ',' t).map Text.trim).filter fun c => !c.isEmpty
    | none => []
  if named = [] then ["id"] else named

def quotedName (t : Text) : Except Invalid Text :=
  Projection.quoted t

def columnList (columns : List Text) : Except Invalid Text :=
  match Ident.quoteAll columns with
  | .ok sql => .ok sql
  | .error fault => .error (.ident fault)

def overwrite (column : Text) : Except Invalid Text :=
  (quotedName column).map fun sql => sql ++ " = EXCLUDED." ++ sql

/-- What happens to a row that is already there. -/
def conflictSql (columns : List Text) (options : UpsertOptions) : Except Invalid Text := do
  let target := conflictTarget options
  let targetSql ← columnList target
  let updated := columns.filter fun c => !target.contains c
  if options.ignoreDuplicates || updated.isEmpty then
    .ok (" ON CONFLICT " ++ Predicate.bracketed targetSql ++ " DO NOTHING")
  else
    let sets ← updated.mapM overwrite
    .ok (" ON CONFLICT " ++ Predicate.bracketed targetSql ++ " DO UPDATE SET " ++
      Text.join ", " sets)

/-- The RETURNING clause; an empty list of columns cannot be returned. -/
def returningSql : Option Text → Except Invalid Text
  | none => .ok []
  | some [] => .error .noPlainColumn
  | some columns => .ok (" RETURNING " ++ columns)

def valuesSql (rows : List Row) : Except Invalid (Text × Params) := do
  let columns := insertColumns rows
  if columns = [] then
    if 1 < rows.length then .error .rowsWithoutColumns else .ok (" DEFAULT VALUES", .empty)
  else
    let list ← columnList columns
    let (texts, params) := tuples columns rows .empty
    .ok (" " ++ Predicate.bracketed list ++ " VALUES " ++ Text.join ", " texts, params)

def insertStatement (q : Query) (rows : List Row) (conflict : Option UpsertOptions)
    (returning : Option Text) : Except Invalid Statement := do
  let table ← q.tableSql
  let (values, params) ← valuesSql rows
  let conflict ← match conflict with
    | some options => conflictSql (insertColumns rows) options
    | none => .ok []
  let returning ← returningSql returning
  .ok ⟨"INSERT INTO " ++ table ++ values ++ conflict ++ returning, params.values⟩

def assignments : Row → Params → Except Invalid (List Text × Params)
  | [], params => .ok ([], params)
  | (column, v) :: rest, params => do
    let sql ← quotedName column
    let (texts, after) ← assignments rest (params.push v)
    .ok ((sql ++ " = " ++ params.placeholderFor v) :: texts, after)

def updateStatement (q : Query) (config : Text) (patch : Row) (returning : Option Text) :
    Except Invalid Statement :=
  if patch.isEmpty then .error .emptyPatch
  else do
    let (sets, params) ← assignments patch .empty
    let table ← q.tableSql
    let (condition, params) ← q.whereSql config params
    let returning ← returningSql returning
    .ok ⟨"UPDATE " ++ table ++ " SET " ++ Text.join ", " sets ++ condition ++ returning,
      params.values⟩

def deleteStatement (q : Query) (config : Text) (returning : Option Text) :
    Except Invalid Statement := do
  let table ← q.tableSql
  let (condition, params) ← q.whereSql config .empty
  let returning ← returningSql returning
  .ok ⟨"DELETE FROM " ++ table ++ condition ++ returning, params.values⟩

/-- The main statement with the given select list; none returns nothing from a mutation. -/
def mainStatement (q : Query) (config : Text) (list : Option Text) : Except Invalid Statement :=
  match q.action with
  | .select => q.selectStatement config (list.getD ['*'])
  | .insert rows => q.insertStatement rows none list
  | .upsert rows options => q.insertStatement rows (some options) list
  | .update patch => q.updateStatement config patch list
  | .delete => q.deleteStatement config list

/-- The select list without what references need. -/
def plainList (q : Query) : Except Invalid (Option Text) :=
  match q.columns with
  | some columns => (Projection.make (Selection.parse columns) []).map fun p => some p.sql
  | none => .ok (if q.action.isMutation then none else some ['*'])

/-- The main statement as it runs when no reference needs a further column. -/
def toSql (q : Query) (config : Text) : Except Error Statement :=
  match q.deferred with
  | some e => .error e
  | none =>
    match q.plainList >>= q.mainStatement config with
    | .ok s => .ok s
    | .error cause => .error (.invalid cause)

/-- The table name without its schema, as foreign keys name it. -/
def sourceTable (q : Query) : Except Invalid Text :=
  match Ident.parse q.table with
  | .ok i => .ok i.name
  | .error fault => .error (.ident fault)

end Query

end FluentQuery
