import FluentQuery.Text

/-! Filter operators and the names they go by: the names of the calls and the short forms of the
filter grammar. A text search may carry its configuration in brackets. -/
namespace FluentQuery

inductive SearchKind where
  | plain
  | phrase
  | websearch
  | raw
deriving DecidableEq, Repr

/-- The function that reads a query of this kind. -/
def SearchKind.function : SearchKind → Text
  | .plain => "plainto_tsquery"
  | .phrase => "phraseto_tsquery"
  | .websearch => "websearch_to_tsquery"
  | .raw => "to_tsquery"

inductive Operator where
  | eq
  | neq
  | gt
  | gte
  | lt
  | lte
  | like
  | ilike
  | is
  | among
  | contains
  | containedBy
  | overlaps
  | search (kind : SearchKind) (config : Option Text)
deriving DecidableEq, Repr

namespace Operator

def plainNames : List (Text × Operator) :=
  [("eq", eq), ("neq", neq), ("gt", gt), ("gte", gte), ("lt", lt), ("lte", lte), ("like", like),
    ("ilike", ilike), ("is", is), ("in", among), ("cs", contains), ("contains", contains),
    ("cd", containedBy), ("containedBy", containedBy), ("contained_by", containedBy),
    ("ov", overlaps), ("overlaps", overlaps)]

def searchNames : List (Text × SearchKind) :=
  [("fts", .raw), ("plfts", .plain), ("textSearch", .plain), ("text_search", .plain),
    ("phfts", .phrase), ("wfts", .websearch)]

/-- The operator of a name; only a text search takes brackets. -/
def parse? (name : Text) : Option Operator :=
  match Text.cut? '(' name with
  | some (base, rest) => do
    let config ← Text.dropEnd? ')' rest
    let kind ← searchNames.lookup base
    some (.search kind (some config))
  | none =>
    match searchNames.lookup name with
    | some kind => some (.search kind none)
    | none => plainNames.lookup name

end Operator

end FluentQuery
