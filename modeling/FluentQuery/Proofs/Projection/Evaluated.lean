import FluentQuery.Proofs.Sql.SelectList
import FluentQuery.Proofs.Store

/-! What the SQL of a select list gives for a stored row, once the columns on which references join
are added to it. Each of these is found under its row key as it is stored; and without the added
keys the row is what the caller's own list gives. -/
namespace FluentQuery

namespace Sql.Item

/-- The key of an item in a row; none for the star. -/
def key? : Item → Option Text
  | .all => none
  | .column parts _ label => some (label.getD (Ident.name ⟨parts⟩))

variable (casting : Text → Json → Json)

/-- The stored value of a column, or what its cast makes of it. -/
def value (row : Row) (parts : List Text) : (cast : Option Text) → Json
  | none => (Row.get? (Ident.name ⟨parts⟩) row).getD .null
  | some type => casting type ((Row.get? (Ident.name ⟨parts⟩) row).getD .null)

/-- The pairs of an item: all stored ones for the star. -/
def cells (row : Row) : Item → List (Text × Json)
  | .all => row
  | .column parts cast label => [(label.getD (Ident.name ⟨parts⟩), value casting row parts cast)]

/-- The row of a select list: the pairs of its items, each put into it in order. -/
def evaluate (items : List Item) (row : Row) : Row :=
  Row.ofPairs (items.flatMap (cells casting row))

end Sql.Item

open Sql (Item)
open Projection (make offer missing addition of privateMark)

/-! Columns -/

/-- The item as which a column is written. -/
def Column.item (c : Column) : Item :=
  ((Item.read? c.sql).map Prod.fst).getD .all

/-- A store whose derived values are those of the SQL. -/
def Store.reading (casting : Text → Json → Json) : Store where
  rows _ _ := []
  distinct _ _ _ member := nomatch member
  derived c row :=
    match c.item with
    | .all => .null
    | .column parts cast _ => Item.value casting row parts cast

variable {casting : Text → Json → Json} {row : Row}

namespace Column

variable {token : Text} {c : Column}

theorem item_of_text {item : Item} (written : item.Written) (same : c.sql = item.text) :
    c.item = item := by
  have read : Item.read? (item.text ++ []) = some (item, []) :=
    Item.read?_text written fun _ head => nomatch head
  rw [List.append_nil] at read
  rw [Column.item, same, read]
  rfl

/-- A column is written as its item. -/
theorem item_written (parsed : parse token = .ok c) :
    c.item.Written ∧ c.sql = c.item.text ∧ c.item.key? = c.output := by
  rcases cases_of_parse parsed with rfl | ⟨parts, cast, label, written, same, output, -⟩
  · exact ⟨trivial, rfl, rfl⟩
  · rw [item_of_text written same]
    exact ⟨written, same, output.symm⟩

/-- The SQL of a column gives what the column stands for. -/
theorem cells_item (parsed : parse token = .ok c) :
    c.item.cells casting row = (Store.reading casting).cells row c := by
  rcases cases_of_parse parsed with rfl | ⟨parts, cast, label, written, same, output, raw_iff⟩
  · rfl
  · have item := item_of_text written same
    rw [Store.cells, output, item, Item.cells]
    by_cases raw : c.raw = true
    · obtain ⟨rfl, own⟩ := raw_iff.1 raw
      simp only [if_pos raw, own, Item.value]
    · simp only [if_neg raw, Store.reading, item]

end Column

/-! Added columns -/

namespace Projection

/-- The item as which a column is added. -/
def Addition.item (a : Addition) : Item :=
  .column [a.hides.getD a.key] none (a.hides.map fun _ => a.key)

variable {o : Offer} {column : Text} {a : Addition}

theorem plain_private (plain : Ident.Plain column) : Ident.Plain (privateMark ++ column) := by
  refine ⟨⟨'_', rfl, rfl⟩, fun c member => ?_⟩
  rcases List.mem_append.1 member with mark | own
  · have each : ∀ c ∈ privateMark, Ident.isLater c = true := by decide
    exact each c mark
  · exact plain.2 c own

/-- An added column is written as its item. -/
theorem addition_sql (plain : Ident.Plain column) (added : addition o column = .ok a) :
    a.sql = a.item.text := by
  have quoted_plain {t : Text} (plain : Ident.Plain t) : quoted t = .ok (Ident.quotePart t) :=
    quoted_eq_ok_iff.2 plain.quote_eq
  obtain ⟨sql, written, rest⟩ := bind_eq_ok_iff.1 added
  obtain rfl := Except.ok.inj ((quoted_plain plain).symm.trans written)
  split at rest
  · obtain ⟨name, named, last⟩ := bind_eq_ok_iff.1 rest
    obtain rfl := Except.ok.inj ((quoted_plain (plain_private plain)).symm.trans named)
    cases last
    simp [Addition.item, Item.text, Item.castText, Item.labelText, Ident.sql]
  · cases rest
    simp [Addition.item, Item.text, Item.castText, Item.labelText, Ident.sql]

theorem Addition.item_written (a : Addition) : a.item.Written :=
  ⟨List.cons_ne_nil _ _, fun _ none => nomatch none⟩

theorem Addition.cells_item (a : Addition) :
    a.item.cells casting row = [Store.addedCell row a] := by
  obtain ⟨sql, key, hides⟩ := a
  cases hides <;> rfl

/-! Lists -/

variable {s : Selection} {columns : List Column} {required : List Text} {additions : List Addition}
  {p : Projection}

theorem item_written_of_mem (parsed : s.columnTokens.mapM Column.parse = .ok columns) {c : Column}
    (among : c ∈ columns) : c.item.Written ∧ c.sql = c.item.text ∧ c.item.key? = c.output := by
  obtain ⟨token, -, read⟩ := exists_of_mem_mapM parsed among
  exact Column.item_written read

theorem cells_items (parsed : s.columnTokens.mapM Column.parse = .ok columns) :
    (columns.map Column.item).flatMap (Item.cells casting row) =
      columns.flatMap ((Store.reading casting).cells row) := by
  rw [List.flatMap_map]
  refine List.flatMap_congr fun c among => ?_
  obtain ⟨token, -, read⟩ := exists_of_mem_mapM parsed among
  exact Column.cells_item read

/-- The caller's own list gives what the caller selects. -/
theorem evaluate_columns (parsed : s.columnTokens.mapM Column.parse = .ok columns) :
    Item.evaluate casting (columns.map Column.item) row =
      (Store.reading casting).select columns row := by
  rw [Item.evaluate, Store.select, cells_items parsed]

/-- A list with additions gives what is fetched. -/
theorem evaluate_additions (parsed : s.columnTokens.mapM Column.parse = .ok columns)
    (additions : List Addition) :
    Item.evaluate casting (columns.map Column.item ++ additions.map Addition.item) row =
      (Store.reading casting).fetch columns additions row := by
  have extra : (additions.map Addition.item).flatMap (Item.cells casting row) =
      additions.map (Store.addedCell row) := by
    simp only [List.flatMap_map, Addition.cells_item]
    exact List.map_eq_flatMap.symm
  rw [Item.evaluate, Store.fetch, List.flatMap_append, cells_items parsed, extra]

/-- The SQL of a select list reads as its columns and then its additions. -/
theorem readAll?_of (parsed : s.columnTokens.mapM Column.parse = .ok columns)
    (plain : ∀ column ∈ required, Ident.Plain column)
    (added : (missing (offer columns) required).mapM (addition (offer columns)) = .ok additions) :
    Item.readAll? (of columns additions).sql =
      some (columns.map Column.item ++ additions.map Addition.item) := by
  have own : columns.map Column.sql = (columns.map Column.item).map Item.text := by
    rw [List.map_map]
    exact List.map_congr_left fun c among => (item_written_of_mem parsed among).2.1
  have extra : additions.map Addition.sql = (additions.map Addition.item).map Item.text := by
    rw [List.map_map]
    refine List.map_congr_left fun a among => ?_
    obtain ⟨column, lacking, one⟩ := exists_of_mem_mapM added among
    exact addition_sql (plain column (Store.mem_required_of_missing lacking).1) one
  rw [of, own, extra, ← List.map_append]
  refine Item.readAll?_texts fun item member => ?_
  rcases List.mem_append.1 member with member | member
  · obtain ⟨c, among, rfl⟩ := List.mem_map.1 member
    exact (item_written_of_mem parsed among).1
  · obtain ⟨a, -, rfl⟩ := List.mem_map.1 member
    exact Addition.item_written a

theorem make_nil (parsed : s.columnTokens.mapM Column.parse = .ok columns) :
    make s [] = .ok (of columns []) :=
  make_eq_ok_iff.2 ⟨columns, [], parsed, rfl, rfl⟩

/-- The columns that a select list must carry for joins do not show. Its SQL reads as what the
caller's own list reads as, and more after it. Unless the caller or the table uses reserved names,
a stored row comes back with each required column, as it is stored, under the key of that column;
without the added keys it is the row of the caller's own list, its order included. -/
theorem additions_transparent (made : make s required = .ok p)
    (plain : ∀ column ∈ required, Ident.Plain column) :
    ∃ own chosen more, make s [] = .ok own ∧ Item.readAll? own.sql = some chosen ∧
      Item.readAll? p.sql = some (chosen ++ more) ∧
      ∀ (casting : Text → Json → Json) (row : Row),
        row.Distinct → (∀ column ∈ required, column ∈ row.keys) →
        (∀ key ∈ row.keys, ¬ Reserved key) →
        (∀ item ∈ chosen, ∀ name ∈ item.key?, ¬ Reserved name) →
        (∀ column ∈ required,
          Row.get? (p.keyOf column) (Item.evaluate casting (chosen ++ more) row) =
            Row.get? column row) ∧
        Relation.strip p.added (Item.evaluate casting (chosen ++ more) row) =
          Item.evaluate casting chosen row := by
  obtain ⟨columns, additions, parsed, added, rfl⟩ := make_eq_ok_iff.1 made
  have alone : Item.readAll? (of columns []).sql = some (columns.map Column.item) := by
    have none : (missing (offer columns) []).mapM (addition (offer columns)) = .ok [] := rfl
    rw [readAll?_of parsed (List.forall_mem_nil _) none, List.map_nil, List.append_nil]
  refine ⟨_, _, _, make_nil parsed, alone, readAll?_of parsed plain added,
    fun casting row distinct stored unreserved outputs => ?_⟩
  have free : Store.Unreserved columns required row :=
    { outputs := fun c among name output => by
        refine outputs _ (List.mem_map_of_mem among) name ?_
        rw [(item_written_of_mem parsed among).2.2, output]
        rfl
      required := fun column member => unreserved column (stored column member)
      stored := unreserved }
  rw [evaluate_additions parsed, evaluate_columns parsed]
  refine ⟨fun column member => ?_, ?_⟩
  · rw [keyOf_of_mem added member]
    exact Store.get?_fetch_of_mem free added distinct member (stored column member)
  · refine Store.strip_fetch free added fun key => ?_
    rw [of, map_key_of_additions added]

/-- Every column, but the key of one holds another, and the key of a third what it is cast to. -/
def renamedAuthor : Selection :=
  .parse "*, author_id:editor_id, body::text"

def joinColumns : List Text :=
  ["author_id", "id", "author_id"]

def withAuthor : Projection where
  sql := "*, \"editor_id\" AS \"author_id\", \"body\"::text AS \"body\", " ++
    "\"author_id\" AS \"__pgrest_author_id\""
  added := ["__pgrest_author_id"]
  keys := [("author_id", "__pgrest_author_id")]

def post : Row :=
  [("id", .int 7), ("author_id", .int 4), ("editor_id", .int 5), ("body", .str "x")]

theorem renamedAuthor_transparent :
    ∃ chosen more, make renamedAuthor joinColumns = .ok withAuthor ∧
      Item.readAll? withAuthor.sql = some (chosen ++ more) ∧
      ∀ casting : Text → Json → Json,
        Row.get? "__pgrest_author_id" (Item.evaluate casting (chosen ++ more) post) =
          some (.int 4) ∧
        Row.get? "id" (Item.evaluate casting (chosen ++ more) post) = some (.int 7) ∧
        Relation.strip withAuthor.added (Item.evaluate casting (chosen ++ more) post) =
          ([("id", .int 7), ("author_id", .int 5), ("editor_id", .int 5),
            ("body", casting "text" (.str "x"))] : Row) := by
  have made : make renamedAuthor joinColumns = .ok withAuthor := by decide +kernel
  obtain ⟨own, chosen, more, alone, read, readMore, transparent⟩ :=
    additions_transparent made (by decide)
  have items : chosen = [.all, .column ["editor_id"] none (some "author_id"),
      .column ["body"] (some "text") (some "body")] := by
    have sql : make renamedAuthor [] = .ok
        ⟨"*, \"editor_id\" AS \"author_id\", \"body\"::text AS \"body\"", [], []⟩ := by
      decide +kernel
    rw [Except.ok.inj (alone.symm.trans sql)] at read
    exact Option.some.inj (read.symm.trans (by decide +kernel))
  refine ⟨chosen, more, made, readMore, fun casting => ?_⟩
  obtain ⟨kept, stripped⟩ :=
    transparent casting post (by decide) (by decide) (by decide) (by rw [items]; decide)
  refine ⟨kept "author_id" (by decide), kept "id" (by decide), ?_⟩
  rw [stripped, items]
  rfl

end Projection

end FluentQuery
