import FluentQuery.Proofs.Predicate.Reading
import FluentQuery.Proofs.Query.Asked
import FluentQuery.Proofs.Sql.Insertion

/-! What an INSERT carries. Each part of the statement is written as the part of an `Sql.Insertion`,
so that the whole is read back: the columns are the keys of the rows in the order in which they are
first seen, and the tuples are the rows, each with the value or the default of every column. -/
namespace FluentQuery

open Sql (Conflict Entry Insertion)
open Sql.Condition (Binds)

/-- The value that the placeholder of a number stands for. -/
def Statement.bound (s : Statement) : Nat → Option Json :=
  Params.bound ⟨0, s.params⟩

/-! Names -/

namespace Ident

/-- The text is an identifier. -/
def Valid (t : Text) : Prop :=
  ∃ i, parse t = .ok i

/-- The parts of an identifier; any other text has none. -/
def partsOf (t : Text) : List Text :=
  match parse t with
  | .ok i => i.parts
  | .error _ => []

variable {t sql : Text} {names : List Text}

theorem partsOf_of_parse {i : Ident} (parsed : parse t = .ok i) : partsOf t = i.parts := by
  rw [partsOf, parsed]

theorem Valid.partsOf_ne_nil (valid : Valid t) : partsOf t ≠ [] := by
  obtain ⟨i, parsed⟩ := valid
  rw [partsOf_of_parse parsed]
  exact Sql.Condition.parts_ne_nil parsed

theorem quote_eq_ok_iff : quote t = .ok sql ↔ Valid t ∧ sql = Ident.sql ⟨partsOf t⟩ := by
  rw [quote, map_eq_ok_iff, Valid]
  constructor
  · rintro ⟨i, parsed, rfl⟩
    exact ⟨⟨i, parsed⟩, by rw [partsOf_of_parse parsed]⟩
  · rintro ⟨⟨i, parsed⟩, rfl⟩
    exact ⟨i, parsed, by rw [partsOf_of_parse parsed]⟩

end Ident

open Ident (Valid partsOf)

namespace Query

variable {sql : Text}

theorem columnList_eq_ok_iff {columns : List Text} : columnList columns = .ok sql ↔
    (∀ c ∈ columns, Valid c) ∧ sql = Sql.names (columns.map partsOf) := by
  have quoted : columnList columns = .ok sql ↔ Ident.quoteAll columns = .ok sql := by
    unfold columnList
    cases Ident.quoteAll columns <;> simp
  rw [quoted, Ident.quoteAll, map_eq_ok_iff]
  simp only [mapM_eq_ok_map_iff fun _ _ => Ident.quote_eq_ok_iff, Sql.names, List.map_map]
  constructor
  · rintro ⟨texts, ⟨valid, rfl⟩, rfl⟩
    exact ⟨valid, rfl⟩
  · rintro ⟨valid, rfl⟩
    exact ⟨_, ⟨valid, rfl⟩, rfl⟩

theorem tableSql_eq_ok_iff {q : Query} :
    q.tableSql = .ok sql ↔ Valid q.table ∧ sql = Ident.sql ⟨partsOf q.table⟩ := by
  rw [← Ident.quote_eq_ok_iff, tableSql]
  cases Ident.quote q.table <;> simp

theorem returningSql_eq_ok_iff {list : Option Text} :
    returningSql list = .ok sql ↔ list ≠ some [] ∧ sql = Sql.returningText list := by
  unfold returningSql Sql.returningText
  rcases list with _ | _ | ⟨c, list⟩ <;> simp [eq_comm, -String.reduceToList]

/-! Conflicts -/

/-- The inserted columns that are not spelled in the target. -/
def untargeted (columns : List Text) (options : UpsertOptions) : List Text :=
  columns.filter fun c => !(conflictTarget options).contains c

def conflictOf (columns : List Text) (options : UpsertOptions) : Conflict where
  target := (conflictTarget options).map partsOf
  updates :=
    if options.ignoreDuplicates || (untargeted columns options).isEmpty then none
    else some ((untargeted columns options).map fun c => (partsOf c, partsOf c))

theorem conflictTarget_ne_nil (options : UpsertOptions) : conflictTarget options ≠ [] := by
  unfold conflictTarget
  extract_lets named
  split
  · exact List.cons_ne_nil _ _
  · assumption

/-- With valid names, what is written on conflict has all the names it needs. -/
theorem written_conflictOf {columns : List Text} (valid : ∀ c ∈ columns, Valid c)
    {options : UpsertOptions} (target : ∀ c ∈ conflictTarget options, Valid c) :
    (conflictOf columns options).Written where
  targeted := by simpa [conflictOf] using conflictTarget_ne_nil options
  target := by
    simp only [conflictOf, List.forall_mem_map]
    exact fun c member => (target c member).partsOf_ne_nil
  assigned := by
    simp only [conflictOf]
    split
    · exact nofun
    · next kept =>
      simp only [Bool.or_eq_true, List.isEmpty_iff, not_or] at kept
      simpa using kept.2
  updates := by
    simp only [conflictOf]
    split
    · exact nofun
    · rintro list ⟨⟩ u member
      obtain ⟨c, kept, rfl⟩ := List.mem_map.1 member
      have named := (valid c (List.mem_of_mem_filter kept)).partsOf_ne_nil
      exact ⟨named, named⟩

theorem overwrite_eq_ok_iff {column : Text} : overwrite column = .ok sql ↔
    Valid column ∧ sql = Sql.assignmentText (partsOf column, partsOf column) := by
  rw [overwrite, map_eq_ok_iff]
  simp only [quotedName, Projection.quoted_eq_ok_iff, Ident.quote_eq_ok_iff, Sql.assignmentText]
  constructor
  · rintro ⟨name, ⟨valid, rfl⟩, rfl⟩
    exact ⟨valid, rfl⟩
  · rintro ⟨valid, rfl⟩
    exact ⟨_, ⟨valid, rfl⟩, rfl⟩

/-- Only the target can make a conflict fail, since the other columns are inserted already. -/
theorem conflictSql_eq {columns : List Text} (valid : ∀ c ∈ columns, Valid c)
    (options : UpsertOptions) : conflictSql columns options =
      (columnList (conflictTarget options)).map fun target => " ON CONFLICT " ++
        Predicate.bracketed target ++ Sql.updatesText (conflictOf columns options).updates := by
  have sets : (untargeted columns options).mapM overwrite = .ok ((untargeted columns options).map
      fun c => Sql.assignmentText (partsOf c, partsOf c)) :=
    (mapM_eq_ok_map_iff fun _ _ => overwrite_eq_ok_iff).2
      ⟨fun c member => valid c (List.mem_of_mem_filter member), rfl⟩
  have steps : conflictSql columns options = (do
      let target ← columnList (conflictTarget options)
      if options.ignoreDuplicates || (untargeted columns options).isEmpty then
        .ok (" ON CONFLICT " ++ Predicate.bracketed target ++ " DO NOTHING")
      else
        let sets ← (untargeted columns options).mapM overwrite
        .ok (" ON CONFLICT " ++ Predicate.bracketed target ++ " DO UPDATE SET " ++
          Text.join ", " sets)) := rfl
  rw [steps, sets]
  cases columnList (conflictTarget options) with
  | error cause => rfl
  | ok target =>
    rw [ok_bind, ok_bind, Except.map, conflictOf]
    split
    · rfl
    · rw [Sql.updatesText_some, List.map_map, List.append_assoc]
      rfl

theorem conflictSql_eq_ok_iff {columns : List Text} (valid : ∀ c ∈ columns, Valid c)
    {options : UpsertOptions} : conflictSql columns options = .ok sql ↔
      (∀ c ∈ conflictTarget options, Valid c) ∧ sql = (conflictOf columns options).text := by
  rw [conflictSql_eq valid, map_eq_ok_iff]
  simp only [columnList_eq_ok_iff]
  constructor
  · rintro ⟨target, ⟨named, rfl⟩, rfl⟩
    exact ⟨named, rfl⟩
  · rintro ⟨named, rfl⟩
    exact ⟨_, ⟨named, rfl⟩, rfl⟩

end Query

/-! Payloads -/

variable {bound : Nat → Option Json} {n : Nat} {rest : Text} {row : Row}

/-- What is read off each template of a list that is numbered through. -/
theorem Template.forall₂_texts {α β : Type} {R : Text → β → Prop} {T : α → Template} {f : α → β}
    {items : List α} (each : ∀ a ∈ items, ∀ n, Binds bound n (T a).values → R ((T a).text n) (f a))
    (binds : Binds bound n ((items.map T).flatMap values)) :
    List.Forall₂ R (texts n (items.map T)) (items.map f) := by
  induction items generalizing n with
  | nil => exact .nil
  | cons a items ih =>
    obtain ⟨one, more⟩ := List.forall_mem_cons.1 each
    obtain ⟨first, later⟩ := Binds.append binds
    exact .cons (one n first) (ih more later)

/-- The value of a row for a column, with the cast of objects, or the default if it has none. -/
def Sql.Entry.of (row : Row) (column : Text) : Entry :=
  match Row.get? column row with
  | some v => .value v (if v.isObject then some "jsonb" else none)
  | none => .default

namespace Template

theorem text_cell (v : Json) : (cell v).text n =
    '$' :: Nat.toDigits 10 n ++ Sql.Item.castText (if v.isObject then some "jsonb" else none) := by
  unfold cell
  split <;> rfl

theorem read?_entry {column : Text} (binds : Binds bound n (entry row column).values)
    (follows : Sql.Follows rest) :
    Entry.read? bound ((entry row column).text n ++ rest) = some (.of row column, rest) := by
  cases found : Row.get? column row with
  | none =>
    have skipped : entry row column = [.sql "DEFAULT"] := by rw [entry, found]
    rw [skipped, text_sql, text_nil, List.append_nil, Entry.of, found]
    exact Entry.read?_default
  | some v =>
    have filled : entry row column = cell v := by rw [entry, found]
    rw [filled, cell, values_value] at binds
    have typed : ∀ type ∈ if v.isObject then some ("jsonb" : Text) else none,
        ∀ c ∈ type, Sql.Item.isTypeChar c = true := by
      split <;> decide
    rw [filled, text_cell, List.append_assoc, Entry.of, found]
    exact Entry.read?_value binds.cons.1 typed follows

theorem read?_tuple {columns : List Text} (any : columns ≠ [])
    (binds : Binds bound n (tuple columns row).values) (rest : Text) :
    Sql.listed? (Entry.read? bound) ((tuple columns row).text n ++ rest) =
      some (columns.map (Entry.of row), rest) := by
  rw [tuple, values_bracketed, values_join] at binds
  rw [tuple, text_bracketed, text_join]
  refine Sql.listed?_bracketed (by rwa [ne_eq, texts_eq_nil_iff, List.map_eq_nil_iff]) ?_
  exact forall₂_texts (fun column _ n binds rest follows => read?_entry binds follows) binds

end Template

namespace Query

variable {rows : List Row} {T : Template}

def payloadTemplate (rows : List Row) : Template :=
  if insertColumns rows = [] then [.sql " DEFAULT VALUES"]
  else .sql " " :: .sql (Predicate.bracketed (Sql.names ((insertColumns rows).map partsOf))) ::
    .sql " VALUES " :: Template.join ", " (rows.map (Template.tuple (insertColumns rows)))

/-- The tuples of rows; without columns, the one of the defaults. -/
def tuplesOf (rows : List Row) : List (List Entry) :=
  if insertColumns rows = [] then [[]]
  else rows.map fun row => (insertColumns rows).map (Entry.of row)

theorem valuesTemplate_eq_ok_iff : valuesTemplate rows = .ok T ↔
    ((∀ c ∈ insertColumns rows, Valid c) ∧ (insertColumns rows = [] → rows.length ≤ 1)) ∧
      T = payloadTemplate rows := by
  unfold valuesTemplate payloadTemplate
  by_cases none : insertColumns rows = []
  · by_cases several : 1 < rows.length
    · simp [none, several]
    · simp [none, several, eq_comm, Nat.le_of_not_lt several, -String.reduceToList]
  · simp only [none, if_false, bind_eq_ok_iff, columnList_eq_ok_iff, false_imp_iff, and_true]
    constructor
    · rintro ⟨list, ⟨valid, rfl⟩, last⟩
      exact ⟨valid, (Except.ok.inj last).symm⟩
    · rintro ⟨valid, rfl⟩
      exact ⟨_, ⟨valid, rfl⟩, rfl⟩

theorem payload?_template (valid : ∀ c ∈ insertColumns rows, Valid c)
    (binds : Binds bound n (payloadTemplate rows).values) (ends : Sql.Ends rest) :
    Sql.payload? bound ((payloadTemplate rows).text n ++ rest) =
      some (((insertColumns rows).map partsOf, tuplesOf rows), rest) := by
  by_cases none : insertColumns rows = []
  · rw [payloadTemplate, if_pos none, tuplesOf, if_pos none, none, Template.text_sql,
      Template.text_nil, List.append_nil]
    exact Sql.payload?_default
  · have any : rows ≠ [] := by
      rintro rfl
      exact none rfl
    have filled : ∀ parts ∈ (insertColumns rows).map partsOf, parts ≠ [] := by
      simp only [List.forall_mem_map]
      exact fun c member => (valid c member).partsOf_ne_nil
    rw [payloadTemplate, if_neg none] at binds ⊢
    simp only [Template.values_sql, Template.values_join] at binds
    rw [tuplesOf, if_neg none]
    simp only [Template.text_sql, Template.text_join, List.append_assoc]
    refine Sql.payload?_values (by simpa using none) filled
      (by rwa [ne_eq, Template.texts_eq_nil_iff, List.map_eq_nil_iff]) ?_ ends
    exact Template.forall₂_texts (fun row _ n binds => Template.read?_tuple none binds) binds

/-! Statements -/

/-- What an INSERT needs in order to be written. -/
structure Insertable (q : Query) (rows : List Row) (conflict : Option UpsertOptions)
    (list : Option Text) : Prop where
  table : Valid q.table
  columns : ∀ c ∈ insertColumns rows, Valid c
  /-- Rows without columns get their defaults one at a time. -/
  single : insertColumns rows = [] → rows.length ≤ 1
  target : ∀ options ∈ conflict, ∀ c ∈ conflictTarget options, Valid c
  returned : list ≠ some []

def insertion (q : Query) (rows : List Row) (conflict : Option UpsertOptions)
    (list : Option Text) : Insertion where
  table := partsOf q.table
  columns := (insertColumns rows).map partsOf
  tuples := tuplesOf rows
  conflict := conflict.map (conflictOf (insertColumns rows))
  returning := list

variable {q : Query} {conflict : Option UpsertOptions} {list : Option Text}

theorem conflictClause_eq_ok_iff (valid : ∀ c ∈ insertColumns rows, Valid c) {sql : Text} :
    conflictClause rows conflict = .ok sql ↔
      (∀ options ∈ conflict, ∀ c ∈ conflictTarget options, Valid c) ∧
        sql = Sql.conflictText (conflict.map (conflictOf (insertColumns rows))) := by
  cases conflict with
  | none => simp [conflictClause, Sql.conflictText, eq_comm]
  | some options => simp [conflictClause, Sql.conflictText, conflictSql_eq_ok_iff valid]

theorem insertTemplate_eq_ok_iff : q.insertTemplate rows conflict list = .ok T ↔
    q.Insertable rows conflict list ∧
      T = .sql "INSERT INTO " :: .sql (Ident.sql ⟨partsOf q.table⟩) :: payloadTemplate rows ++
        [.sql (Sql.conflictText (conflict.map (conflictOf (insertColumns rows)))),
          .sql (Sql.returningText list)] := by
  simp only [insertTemplate, bind_eq_ok_iff, tableSql_eq_ok_iff, valuesTemplate_eq_ok_iff,
    returningSql_eq_ok_iff]
  constructor
  · rintro ⟨_, ⟨table, rfl⟩, _, ⟨⟨columns, single⟩, rfl⟩, _, clause, _, ⟨returned, rfl⟩, last⟩
    obtain ⟨target, rfl⟩ := (conflictClause_eq_ok_iff columns).1 clause
    exact ⟨⟨table, columns, single, target, returned⟩, (Except.ok.inj last).symm⟩
  · rintro ⟨able, rfl⟩
    exact ⟨_, ⟨able.table, rfl⟩, _, ⟨⟨able.columns, able.single⟩, rfl⟩, _,
      (conflictClause_eq_ok_iff able.columns).2 ⟨able.target, rfl⟩, _, ⟨able.returned, rfl⟩, rfl⟩

theorem exists_insertStatement_iff_insertable :
    (∃ s, q.insertStatement rows conflict list = .ok s) ↔ q.Insertable rows conflict list := by
  simp only [insertStatement_eq, map_eq_ok_iff, insertTemplate_eq_ok_iff]
  constructor
  · rintro ⟨s, T, ⟨able, -⟩, -⟩
    exact able
  · intro able
    exact ⟨_, _, ⟨able, rfl⟩, rfl⟩

/-- An INSERT is read back. -/
theorem read?_insertStatement {s : Statement}
    (compiled : q.insertStatement rows conflict list = .ok s) :
    Insertion.read? s.bound s.sql = some (q.insertion rows conflict list) := by
  rw [insertStatement_eq, map_eq_ok_iff] at compiled
  obtain ⟨T, templated, rfl⟩ := compiled
  obtain ⟨able, rfl⟩ := insertTemplate_eq_ok_iff.1 templated
  have written : ∀ c ∈ conflict.map (conflictOf (insertColumns rows)), c.Written := by
    intro c member
    obtain ⟨options, given, rfl⟩ := Option.map_eq_some_iff.1 member
    exact written_conflictOf able.columns (able.target options given)
  have spaced (n : Nat) : ((payloadTemplate rows).text n).head? = some ' ' := by
    unfold payloadTemplate
    split <;> rfl
  have binds := Params.empty.binds_pushAll (payloadTemplate rows).values
  have read := Insertion.read?_parts list able.table.partsOf_ne_nil (spaced 1)
    (fun rest ends => payload?_template able.columns binds ends) written
  simp only [Template.statement, Statement.bound, Template.values_append, Template.values_sql,
    Template.values_nil, List.cons_append, List.append_nil, Template.text_sql, Template.text_append,
    Template.text_nil]
  exact read

theorem insertable_iff (filled : insertColumns rows ≠ []) : q.Insertable rows conflict list ↔
    (∀ name ∈ q.table :: insertColumns rows ++ conflict.elim [] conflictTarget, Valid name) ∧
      list ≠ some [] := by
  constructor
  · intro able
    refine ⟨fun name member => ?_, able.returned⟩
    rcases List.mem_append.1 member with member | targeted
    · rcases List.mem_cons.1 member with rfl | column
      · exact able.table
      · exact able.columns name column
    · cases conflict with
      | none => cases targeted
      | some options => exact able.target options rfl name targeted
  · rintro ⟨valid, returned⟩
    obtain ⟨named, target⟩ := List.forall_mem_append.1 valid
    obtain ⟨table, columns⟩ := List.forall_mem_cons.1 named
    refine ⟨table, columns, fun none => absurd none filled, ?_, returned⟩
    rintro options ⟨⟩
    exact target

theorem mapM_parse_of_valid {names : List Text} (valid : ∀ t ∈ names, Valid t) :
    names.mapM Ident.parse = .ok ((names.map partsOf).map Ident.mk) := by
  have step (t : Text) (i : Ident) : Ident.parse t = .ok i ↔ Valid t ∧ i = ⟨partsOf t⟩ := by
    constructor
    · intro parsed
      exact ⟨⟨i, parsed⟩, by rw [Ident.partsOf_of_parse parsed]⟩
    · rintro ⟨⟨j, parsed⟩, rfl⟩
      rw [Ident.partsOf_of_parse parsed]
      exact parsed
  exact (mapM_eq_ok_map_iff step).2 ⟨valid, List.map_map⟩

theorem mem_insertColumns {key : Text} :
    key ∈ insertColumns rows ↔ ∃ row ∈ rows, key ∈ Row.keys row := by
  rw [insertColumns, List.mem_eraseDups, List.mem_flatMap]

theorem insertColumns_ne_nil (keyed : ∃ row ∈ rows, row ≠ []) : insertColumns rows ≠ [] := by
  obtain ⟨row, member, filled⟩ := keyed
  obtain ⟨pair, others, rfl⟩ := List.exists_cons_of_ne_nil filled
  exact List.ne_nil_of_mem (mem_insertColumns.2 ⟨_, member, List.mem_cons_self⟩)

/-- A query is written with the select list that it asks for itself. -/
theorem toSql_eq_ok_iff {config : Text} {s : Statement} : q.toSql config = .ok s ↔
    q.deferred = none ∧ ∃ list, q.plainList = .ok list ∧ q.mainStatement config list = .ok s := by
  rw [← bind_eq_ok_iff, toSql]
  cases q.deferred with
  | some e => simp
  | none => cases q.plainList >>= q.mainStatement config <;> simp

end Query

/-- The rows that an action inserts, with the options of an upsert. -/
def Action.inserted? : Action → Option (List Row × Option UpsertOptions)
  | .insert rows => some (rows, none)
  | .upsert rows options => some (rows, some options)
  | _ => none

namespace Query

variable {q : Query} {rows : List Row} {conflict : Option UpsertOptions} {list : Option Text}

theorem mainStatement_of_inserted (inserts : q.action.inserted? = some (rows, conflict))
    (config : Text) (list : Option Text) :
    q.mainStatement config list = q.insertStatement rows conflict list := by
  unfold Action.inserted? at inserts
  unfold mainStatement
  split at inserts <;> cases inserts <;> simp only [*]

/-- Every cell is carried to its column. The columns are the keys of the rows, each once and in the
order in which they are first seen; there is a tuple for each row, with an entry for each column,
and each parameter stands at one place. -/
theorem cells_inserted (q : Query) {rows : List Row} {conflict : Option UpsertOptions}
    (inserts : q.action.inserted? = some (rows, conflict)) (keyed : ∃ row ∈ rows, row ≠ [])
    (config : Config) :
    ((insertColumns rows).Nodup ∧
      (∀ key, key ∈ insertColumns rows ↔ ∃ row ∈ rows, key ∈ Row.keys row) ∧
      (insertColumns rows).Pairwise fun a b =>
        (rows.flatMap Row.keys).idxOf a < (rows.flatMap Row.keys).idxOf b) ∧
    (∀ list, (∃ s, q.mainStatement config.searchConfig list = .ok s) ↔
      (∀ name ∈ q.table :: insertColumns rows ++ conflict.elim [] conflictTarget,
        ∃ i, Ident.parse name = .ok i) ∧ list ≠ some []) ∧
    (∀ list s, IsList list → q.mainStatement config.searchConfig list = .ok s →
      Sql.placeholders? s.sql = some (List.range' 1 s.params.length) ∧
      ∃ ins, Insertion.read? s.bound s.sql = some ins ∧
        (insertColumns rows).mapM Ident.parse = .ok (ins.columns.map Ident.mk) ∧
        ins.tuples = rows.map fun row => (insertColumns rows).map (Entry.of row)) ∧
    ∀ s, q.toSql config.searchConfig = .ok s ↔ q.deferred = none ∧
      ∃ list, q.plainList = .ok list ∧ IsList list ∧
        q.mainStatement config.searchConfig list = .ok s := by
  have filled := insertColumns_ne_nil keyed
  refine ⟨⟨nodup_eraseDups _, fun key => mem_insertColumns, pairwise_idxOf_eraseDups _⟩,
    fun list => ?_, fun list s listed compiled => ⟨?_, ?_⟩, fun s => ?_⟩
  · rw [mainStatement_of_inserted inserts, exists_insertStatement_iff_insertable,
      insertable_iff filled]
    rfl
  · exact ((Compiles.main q listed).fragment compiled).placeholders?
  · rw [mainStatement_of_inserted inserts] at compiled
    have able := exists_insertStatement_iff_insertable.1 ⟨s, compiled⟩
    refine ⟨_, read?_insertStatement compiled, mapM_parse_of_valid able.columns, ?_⟩
    exact if_neg filled
  · rw [toSql_eq_ok_iff]
    refine and_congr_right fun _ => exists_congr fun list => and_congr_right fun listed => ?_
    rw [and_iff_right (isList_of_plainList listed)]

/-- Two rows with different keys, and a conflict on the title that they share. -/
def upsertGames : Query :=
  (Query.ofTable "games").upsert (.value (.arr [
    .obj [("title", .str "Hades"), ("meta", .obj [("engine", .str "custom")])],
    .obj [("title", .str "Celeste"), ("rating", .null)]])) ⟨some "title", false⟩

def gamesStatement : Statement where
  sql := "INSERT INTO \"games\" (\"title\", \"meta\", \"rating\") " ++
    "VALUES ($1, $2::jsonb, DEFAULT), ($3, DEFAULT, $4) ON CONFLICT (\"title\") " ++
    "DO UPDATE SET \"meta\" = EXCLUDED.\"meta\", \"rating\" = EXCLUDED.\"rating\""
  params := [.str "Hades", .obj [("engine", .str "custom")], .str "Celeste", .null]

theorem upsertGames_cells :
    upsertGames.mainStatement Config.standard.searchConfig none = .ok gamesStatement ∧
      ∃ ins, Insertion.read? gamesStatement.bound gamesStatement.sql = some ins ∧
        ins.tuples = [
          [.value (.str "Hades") none, .value (.obj [("engine", .str "custom")]) (some "jsonb"),
            .default],
          [.value (.str "Celeste") none, .default, .value .null none]] := by
  have compiled : upsertGames.mainStatement Config.standard.searchConfig none =
      .ok gamesStatement := by
    decide +kernel
  obtain ⟨-, -, read, -⟩ := cells_inserted upsertGames rfl
    ⟨_, List.mem_cons_self, List.cons_ne_nil _ _⟩ .standard
  obtain ⟨-, ins, found, -, tuples⟩ := read none gamesStatement .none compiled
  exact ⟨compiled, ins, found, tuples.trans rfl⟩

end Query

end FluentQuery
