import FluentQuery.ForeignKey
import FluentQuery.Select.Column

/-! Select lists that also carry the columns on which references join. A required column counts as
selected only when its stored value appears under its own name; otherwise it is added, under a
private name if its own is taken, and removed from the rows again in the end. -/
namespace FluentQuery

structure Projection where
  sql : Text
  /-- The keys to remove from the rows once they have served. -/
  added : List Text
  /-- The private keys of columns whose name is taken. -/
  keys : List (Text × Text)
deriving DecidableEq, Repr

namespace Projection

/-- Marks the private names of join columns. -/
def privateMark : Text := "__pgrest_"

/-- The row key of the stored value of a column. -/
def keyOf (p : Projection) (column : Text) : Text :=
  (p.keys.lookup column).getD column

/-- What a select list already offers. -/
structure Offer where
  star : Bool
  /-- Columns under their own names. -/
  raw : List Text
  /-- Keys that hold something else. -/
  renamed : List Text

def offer (columns : List Column) : Offer where
  star := columns.any fun c => c.output.isNone
  raw := columns.filterMap fun c => if c.raw then c.output else none
  renamed := columns.filterMap fun c => if c.raw then none else c.output

def Offer.isShadowed (o : Offer) (column : Text) : Bool :=
  o.renamed.contains column

def Offer.has (o : Offer) (column : Text) : Bool :=
  !o.isShadowed column && (o.star || o.raw.contains column)

/-- A column to add: its SQL, its row key, and the name that key stands for if it is private. -/
structure Addition where
  sql : Text
  key : Text
  hides : Option Text
deriving DecidableEq

def quoted (t : Text) : Except Invalid Text :=
  match Ident.quote t with
  | .ok sql => .ok sql
  | .error fault => .error (.ident fault)

def addition (o : Offer) (column : Text) : Except Invalid Addition := do
  let sql ← quoted column
  if o.isShadowed column then
    let key := privateMark ++ column
    let name ← quoted key
    .ok ⟨sql ++ " AS " ++ name, key, some column⟩
  else .ok ⟨sql, column, none⟩

/-- The required columns that are not on offer, each once, in order. -/
def missing (o : Offer) (required : List Text) : List Text :=
  required.eraseDups.filter fun column => !o.has column

/-- The select list of `columns` with the missing ones of `required`. -/
def make (s : Selection) (required : List Text) : Except Invalid Projection := do
  let columns ← s.columnTokens.mapM Column.parse
  let additions ← (missing (offer columns) required).mapM (addition (offer columns))
  .ok
    { sql := Text.join ", " (columns.map Column.sql ++ additions.map Addition.sql)
      added := additions.map Addition.key
      keys := additions.filterMap fun a => a.hides.map fun column => (column, a.key) }

end Projection

end FluentQuery
