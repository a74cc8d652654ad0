import FluentQuery.Filter.Operand
import FluentQuery.Predicate

/-! One filter, `column operator value`, and the predicates that it and its negation mean. -/
namespace FluentQuery

structure Filter where
  column : Text
  op : Operator
  value : Json
deriving DecidableEq

namespace Filter

def quotedColumn (f : Filter) : Except Invalid Text :=
  match Ident.quote f.column with
  | .ok sql => .ok sql
  | .error fault => .error (.filterColumn f.column fault)

/-- The keyword that `IS` compares with. -/
def keyword (value : Json) : Except Invalid Text :=
  match value with
  | .null => .ok "NULL"
  | .bool true => .ok "TRUE"
  | .bool false => .ok "FALSE"
  | .str t =>
    match ([("null", "NULL"), ("true", "TRUE"), ("false", "FALSE"), ("unknown", "UNKNOWN")] :
        List (Text × Text)).lookup (Text.lowerAscii t) with
    | some word => .ok word
    | none => .error (.isText t)
  | other => .error (.isValue other)

/-- The values that `IN` looks among: those of an array, of a list text, or the one value. -/
def members (value : Json) : Except Invalid (List Json) :=
  match value with
  | .arr items => .ok items
  | .str t =>
    if t.head? = some '(' then
      (Operand.parse .among t).map fun list => match list with
        | .arr items => items
        | other => [other]
    else .ok [value]
  | other => .ok [other]

def containment (column symbol : Text) (value : Json) : Predicate :=
  .compare column symbol value (if value.isObject then some "jsonb" else none)

/-- The predicate of the filter. An empty list contains and overlaps nothing. -/
def predicate (config : Text) (f : Filter) : Except Invalid Predicate := do
  let column ← f.quotedColumn
  match f.op with
  | .eq => .ok (.compare column "=" f.value none)
  | .neq => .ok (.compare column "!=" f.value none)
  | .gt => .ok (.compare column ">" f.value none)
  | .gte => .ok (.compare column ">=" f.value none)
  | .lt => .ok (.compare column "<" f.value none)
  | .lte => .ok (.compare column "<=" f.value none)
  | .like => .ok (.compare column "LIKE" f.value none)
  | .ilike => .ok (.compare column "ILIKE" f.value none)
  | .is => (keyword f.value).map fun word => .state column word false
  | .among => (members f.value).map (Predicate.inList column)
  | .contains => .ok (containment column "@>" f.value)
  | .containedBy =>
    .ok (if f.value = .arr [] then .never else containment column "<@" f.value)
  | .overlaps =>
    .ok (if f.value = .arr [] then .never else .compare column "&&" f.value none)
  | .search kind own => .ok (.search column kind.function (own.getD config) f.value)

/-- The predicate of the negated filter, by the opposite operator where there is one. -/
def negation (config : Text) (f : Filter) : Except Invalid Predicate := do
  let column ← f.quotedColumn
  match f.op with
  | .eq => .ok (.compare column "!=" f.value none)
  | .neq => .ok (.compare column "=" f.value none)
  | .like => .ok (.compare column "NOT LIKE" f.value none)
  | .ilike => .ok (.compare column "NOT ILIKE" f.value none)
  | .is => (keyword f.value).map fun word => .state column word true
  | .among => (members f.value).map (Predicate.notInList column)
  | _ => (f.predicate config).map .not

end Filter

end FluentQuery
