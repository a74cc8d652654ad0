import FluentQuery.Error
import FluentQuery.Select

/-! The foreign-key graph, and how a reference finds its way through it: by the key its hint
names, by the naming convention of the hint, by a key between the two tables, and last by guessing
a column named after the label. -/
namespace FluentQuery

/-- One column pair of a foreign key. -/
structure ForeignKey where
  name : Text
  fromTable : Text
  fromColumn : Text
  toTable : Text
  toColumn : Text
deriving DecidableEq, Repr

abbrev Graph := List ForeignKey

inductive Direction where
  /-- The source row holds the key: one related row or none. -/
  | manyToOne
  /-- The related rows hold the key: any number of them. -/
  | oneToMany
deriving DecidableEq, Repr

/-- What a reference without related rows is given. -/
def Direction.emptyValue : Direction → Json
  | .manyToOne => .null
  | .oneToMany => .arr []

/-- The columns on which a reference joins. -/
structure Plan where
  direction : Direction
  localColumn : Text
  foreignColumn : Text
  foreignTable : Text
deriving DecidableEq, Repr

namespace Plan

/-- The plan along a key, seen from the source table. -/
def along (source : Text) (k : ForeignKey) : Plan :=
  if k.fromTable = source then ⟨.manyToOne, k.fromColumn, k.toColumn, k.toTable⟩
  else ⟨.oneToMany, k.toColumn, k.fromColumn, k.fromTable⟩

/-- The column in `{table}_{column}`, if it is not empty. -/
def columnOf? (table stem : Text) : Option Text :=
  match (table ++ ['_']).isPrefixOf? stem with
  | some [] => none
  | column => column

/-- The hint without `_fkey`. -/
def stem? (hint : Text) : Option Text :=
  (("_fkey" : Text).reverse.isPrefixOf? hint.reverse).map List.reverse

/-- The convention `{source}_{column}_fkey` for the source's column and
`{table}_{column}_fkey` for the related table's. -/
def ofConvention? (hint source table : Text) : Option Plan :=
  match stem? hint with
  | none => none
  | some stem =>
    match columnOf? source stem with
    | some column => some ⟨.manyToOne, column, "id", table⟩
    | none => (columnOf? table stem).map fun column => ⟨.oneToMany, "id", column, table⟩

end Plan

/-- How a reference was resolved. -/
inductive Resolution where
  | found (plan : Plan)
  | guessed (plan : Plan)
  | unresolved
deriving DecidableEq, Repr

namespace Resolution

def plan? : Resolution → Option Plan
  | .found p | .guessed p => some p
  | .unresolved => none

/-- The column that a reference of this label is expected to use. -/
def preferredColumn (label : Text) : Text :=
  label ++ "_id"

/-- The key on the preferred column, else the first. -/
def pick (label : Text) (keys : List ForeignKey) : Option ForeignKey :=
  (keys.find? fun k => k.fromColumn = preferredColumn label).or keys.head?

def outgoing (g : Graph) (source table : Text) : List ForeignKey :=
  g.filter fun k => k.fromTable = source ∧ k.toTable = table

def incoming (g : Graph) (source table : Text) : List ForeignKey :=
  g.filter fun k => k.fromTable = table ∧ k.toTable = source

def byHint (g : Graph) (r : Reference) (source : Text) : Option Plan :=
  match r.hint with
  | none => none
  | some hint =>
    match g.find? fun k => k.name = hint with
    | some k => some (.along source k)
    | none => Plan.ofConvention? hint source r.table

def byTables (g : Graph) (r : Reference) (source : Text) : Option Plan :=
  ((pick r.label (outgoing g source r.table)).or
    (pick r.label (incoming g source r.table))).map (Plan.along source)

def guess (r : Reference) : Plan :=
  ⟨.manyToOne, preferredColumn r.label, "id", r.table⟩

/-- Hint first, then the tables, then a guess if guessing is allowed. -/
def resolve (g : Graph) (guessing : Bool) (source : Text) (r : Reference) : Resolution :=
  match (byHint g r source).or (byTables g r source) with
  | some plan => .found plan
  | none => if guessing then .guessed (guess r) else .unresolved

end Resolution

end FluentQuery
