import FluentQuery.Json.Printer
import FluentQuery.Text.Quoted

/-! The shapes that callers expect of data: integers, texts, lists and records of named fields.
Reading a value by a shape yields the value with exactly the declared fields, or says what was
found in place of what. -/
namespace FluentQuery

inductive Shape where
  | any
  /-- A signed integer of 64 bits. -/
  | integer
  | text
  | list (item : Shape)
  | record (name : Text) (fields : List (Text × Shape))

namespace Shape

def expectation : Shape → Text
  | .any => "any value"
  | .integer => "i64"
  | .text => "a string"
  | .list _ => "a sequence"
  | .record name _ => "struct " ++ name

/-- What a value is, in the words of a message. -/
def describe : Json → Text
  | .null => "null"
  | .bool b => "boolean `" ++ (Json.bool b).render ++ "`"
  | .int i => "integer `" ++ (Json.int i).render ++ "`"
  | .float x => "floating point `" ++ x.render ++ "`"
  | .str t => "string " ++ Text.Quoted.render t
  | .arr _ => "sequence"
  | .obj _ => "map"

def mismatch (s : Shape) (v : Json) : Text :=
  "invalid type: " ++ describe v ++ ", expected " ++ s.expectation

def outOfRange (v : Json) : Text :=
  "invalid value: " ++ describe v ++ ", expected i64"

def tooShort (name : Text) (fields found : Nat) : Text :=
  "invalid length " ++ Nat.toDigits 10 found ++ ", expected struct " ++ name ++ " with " ++
    Nat.toDigits 10 fields ++ " elements"

def tooLong (found : Nat) : Text :=
  "invalid length " ++ Nat.toDigits 10 found ++ ", expected fewer elements in array"

def missing (field : Text) : Text :=
  "missing field `" ++ field ++ "`"

/-- The declared fields in their order, from those that were read. -/
def collect (fields : List (Text × Shape)) (found : Row) : Except Text Row :=
  fields.mapM fun (name, _) =>
    match Row.get? name found with
    | some v => .ok (name, v)
    | none => .error (missing name)

mutual

/-- Reads a value by a shape. A record may also be given as the list of its fields. -/
def read : Shape → Json → Except Text Json
  | .any, v => .ok v
  | .integer, v =>
    match v with
    | .int i => if -2 ^ 63 ≤ i ∧ i < 2 ^ 63 then .ok v else .error (outOfRange v)
    | _ => .error (mismatch .integer v)
  | .text, v =>
    match v with
    | .str _ => .ok v
    | _ => .error (mismatch .text v)
  | .list item, v =>
    match v with
    | .arr items => (items.mapM (read item)).map .arr
    | _ => .error (mismatch (.list item) v)
  | .record name fields, v =>
    match v with
    | .obj members =>
      match readMembers fields members with
      | .error e => .error e
      | .ok found => (collect fields found).map .obj
    | .arr items =>
      match readItems fields items with
      | .error e => .error e
      | .ok none => .error (tooShort name fields.length items.length)
      | .ok (some row) =>
        if fields.length < items.length then .error (tooLong items.length) else .ok (.obj row)
    | _ => .error (mismatch (.record name fields) v)

/-- Reads the members that are declared, in the order in which they come. -/
def readMembers (fields : List (Text × Shape)) : Row → Except Text Row
  | [] => .ok []
  | (key, v) :: rest =>
    match readField fields key v with
    | none => readMembers fields rest
    | some (.error e) => .error e
    | some (.ok w) => (readMembers fields rest).map ((key, w) :: ·)

/-- Reads a member by the shape of its field, if it is declared. -/
def readField : List (Text × Shape) → Text → Json → Option (Except Text Json)
  | [], _, _ => none
  | (name, shape) :: rest, key, v =>
    if name = key then some (read shape v) else readField rest key v

/-- Reads items field by field; none if there are too few. -/
def readItems : List (Text × Shape) → List Json → Except Text (Option Row)
  | [], _ => .ok (some [])
  | _ :: _, [] => .ok none
  | (name, shape) :: fields, v :: rest =>
    match read shape v with
    | .error e => .error e
    | .ok w => (readItems fields rest).map fun row => row.map ((name, w) :: ·)

end

end Shape

end FluentQuery
