import FluentQuery.ForeignKey
import FluentQuery.Json.Inspect
import FluentQuery.Statement

/-! The statement that reads the foreign keys of some schemas from the catalog, and the keys in
its rows. -/
namespace FluentQuery

/-- The text in a field of a row; the error shows what stands there instead. -/
def ForeignKey.textField (row : Row) (name : Text) : Except Error Text :=
  match Row.get? name row with
  | some (.str t) => .ok t
  | some other => .error (.decode name ("expected text, got Some(" ++ other.inspect ++ ")"))
  | none => .error (.decode name "expected text, got None")

/-- Reads a key from its row of the catalog. -/
def ForeignKey.ofRow (row : Row) : Except Error ForeignKey := do
  let name ← textField row "constraint_name"
  let fromTable ← textField row "from_table"
  let fromColumn ← textField row "from_column"
  let toTable ← textField row "to_table"
  let toColumn ← textField row "to_column"
  .ok ⟨name, fromTable, fromColumn, toTable, toColumn⟩

namespace Graph

def catalogSql : Text :=
  "
SELECT
  tc.constraint_name::text AS constraint_name,
  kcu.table_name::text AS from_table,
  kcu.column_name::text AS from_column,
  ccu.table_name::text AS to_table,
  ccu.column_name::text AS to_column
FROM information_schema.table_constraints tc
JOIN information_schema.key_column_usage kcu
  ON tc.constraint_name = kcu.constraint_name
 AND tc.table_schema = kcu.table_schema
JOIN information_schema.constraint_column_usage ccu
  ON ccu.constraint_name = tc.constraint_name
 AND ccu.constraint_schema = tc.table_schema
WHERE tc.constraint_type = 'FOREIGN KEY'
  AND tc.table_schema::text = ANY($1::text[])
ORDER BY kcu.table_name, tc.constraint_name, kcu.ordinal_position
"

/-- Asks for the keys of the given schemas. -/
def statement (schemas : List Text) : Statement :=
  ⟨catalogSql, [.arr (schemas.map .str)]⟩

/-- The keys in rows of the catalog, if all of them can be read. -/
def ofRows (rows : List Row) : Except Error Graph :=
  rows.mapM ForeignKey.ofRow

end Graph

end FluentQuery
