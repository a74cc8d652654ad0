import FluentQuery.Text

/-! The types of columns and parameters, as far as their form on the wire depends on them. -/
namespace FluentQuery

/-- Base types with a decoding of their own. -/
inductive Scalar where
  | bool
  | bytea
  | char
  | name
  | int8
  | int2
  | int4
  | text
  | oid
  | json
  | float4
  | float8
  | bpchar
  | varchar
  | date
  | time
  | timestamp
  | timestamptz
  | numeric
  | uuid
  | jsonb
  | void
deriving DecidableEq, Repr

inductive WireType where
  | scalar (s : Scalar)
  /-- Any other type without elements. -/
  | plain (name : Text)
  | enum (name : Text)
  | domain (name : Text)
  | array (element : WireType)
deriving DecidableEq, Repr

namespace Scalar

def named : List (Text × Scalar) :=
  [("bool", bool), ("bytea", bytea), ("char", char), ("name", name), ("int8", int8),
    ("int2", int2), ("int4", int4), ("text", text), ("oid", oid), ("json", json),
    ("float4", float4), ("float8", float8), ("bpchar", bpchar), ("varchar", varchar),
    ("date", date), ("time", time), ("timestamp", timestamp), ("timestamptz", timestamptz),
    ("numeric", numeric), ("uuid", uuid), ("jsonb", jsonb), ("void", void)]

def label (s : Scalar) : Text :=
  ((named.find? fun (_, t) => t = s).map Prod.fst).getD []

/-- Arrays of these are decoded element by element. -/
def hasArray : Scalar → Bool
  | bool | int2 | int4 | int8 | float8 | numeric | text | varchar | bpchar | name | uuid | json
  | jsonb | timestamptz => true
  | _ => false

end Scalar

namespace WireType

def name : WireType → Text
  | .scalar s => s.label
  | .plain name | .enum name | .domain name => name
  | .array element => '_' :: element.name

def isArray : WireType → Bool
  | .array _ => true
  | _ => false

def isJson : WireType → Bool
  | .scalar .json | .scalar .jsonb => true
  | _ => false

end WireType

end FluentQuery
