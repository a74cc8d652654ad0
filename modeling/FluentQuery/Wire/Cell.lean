import FluentQuery.Event
import FluentQuery.Json.Reader
import FluentQuery.Text.Hex
import FluentQuery.Wire.Calendar
import FluentQuery.Wire.Kind
import FluentQuery.Wire.Numeric

/-! Reading the binary values of a row. A type without a decoding of its own is read as text, with
U+FFFD for what is no UTF-8, and reported. -/
namespace FluentQuery.Cell

/-- A double as JSON, or its name where it is not finite. -/
def double (x : Binary64) : Json :=
  if x.isFinite then .float x
  else if x.isNaN then .str "NaN"
  else if x.isNegative then .str "-inf"
  else .str "inf"

def strictText? (bytes : List UInt8) : Option Json :=
  (Text.Utf8.decode? bytes).map .str

def lossyText (bytes : List UInt8) : Json :=
  .str (Text.Utf8.decodeLossy bytes)

def uuidText (bytes : List UInt8) : Text :=
  let digits := Text.Hex.encode bytes
  Text.join "-" [digits.take 8, (digits.drop 8).take 4, (digits.drop 12).take 4,
    (digits.drop 16).take 4, digits.drop 20]

def json? (bytes : List UInt8) : Option Json :=
  (Text.Utf8.decode? bytes).bind Json.read?

/-- A value of a base type; none if the bytes do not denote one. -/
def scalar? (s : Scalar) (bytes : List UInt8) : Option Json :=
  match s with
  | .bool => (Bytes.exactly? 1 bytes).map fun n => .bool (n != 0)
  | .int2 => (Bytes.exactlySigned? 2 bytes).map .int
  | .int4 => (Bytes.exactlySigned? 4 bytes).map .int
  | .int8 => (Bytes.exactlySigned? 8 bytes).map .int
  | .oid => (Bytes.exactly? 4 bytes).map fun n => .int n
  | .float4 => (Bytes.exactly? 4 bytes).map fun n => double (.ofSingleBits n)
  | .float8 => (Bytes.exactly? 8 bytes).map fun n => double ⟨UInt64.ofNat n⟩
  | .numeric => (Numeric.read? bytes).bind Numeric.toJson?
  | .text | .varchar | .bpchar | .name => strictText? bytes
  | .char => none
  | .uuid => if bytes.length = 16 then some (.str (uuidText bytes)) else none
  | .json => json? bytes
  | .jsonb =>
    match bytes with
    | 1 :: rest => json? rest
    | _ => none
  | .date =>
    (Bytes.exactlySigned? 4 bytes).bind fun n => (Date.ofDays? n).map fun d => .str d.render
  | .time => (Bytes.exactlySigned? 8 bytes).map fun n => .str (TimeOfDay.ofMicros n)
  | .timestamp => (Bytes.exactlySigned? 8 bytes).bind fun n => (momentText? n).map .str
  | .timestamptz =>
    (Bytes.exactlySigned? 8 bytes).bind fun n =>
      (momentText? n).map fun t => .str (t ++ "+00:00")
  | .bytea => some (.str ('\\' :: 'x' :: Text.Hex.encode bytes))
  | .void => some .null

/-- The elements of an array, each with its length before it; no byte is left over. -/
def elements? (read : List UInt8 → Option Json) : Nat → List UInt8 → Option (List Json)
  | 0, bytes => if bytes.isEmpty then some [] else none
  | count + 1, bytes => do
    let (length, bytes) ← Bytes.signed? 4 bytes
    if length < 0 then (elements? read count bytes).map (.null :: ·)
    else
      let (value, rest) ← Bytes.split? length.toNat bytes
      let v ← read value
      (elements? read count rest).map (v :: ·)

/-- An array of at most one dimension. -/
def array? (read : List UInt8 → Option Json) (bytes : List UInt8) : Option Json := do
  let (dimensions, bytes) ← Bytes.signed? 4 bytes
  let (_, bytes) ← Bytes.unsigned? 4 bytes
  let (_, bytes) ← Bytes.unsigned? 4 bytes
  if dimensions = 0 then (elements? read 0 bytes).map .arr
  else if dimensions = 1 then
    let (length, bytes) ← Bytes.signed? 4 bytes
    let (_, bytes) ← Bytes.unsigned? 4 bytes
    if length < 0 then none else (elements? read length.toNat bytes).map .arr
  else none

/-- How the bytes of a type are read, if it has a decoding of its own. -/
def reader? : WireType → Option (List UInt8 → Option Json)
  | .scalar s => some (scalar? s)
  | .enum _ | .domain _ => some fun bytes => some (lossyText bytes)
  | .array (.scalar s) => if s.hasArray then some (array? (scalar? s)) else none
  | .array (.enum _) => some (array? fun bytes => some (lossyText bytes))
  | _ => none

/-- Whether the type is read as text for want of a decoding. -/
def isFallback (type : WireType) : Bool :=
  (reader? type).isNone

/-- The value of a column; null unless the type cannot be read at all. -/
def decode? (type : WireType) (bytes : Option (List UInt8)) : Option Json :=
  match bytes with
  | none => if type = .scalar .char then none else some .null
  | some bytes =>
    match reader? type with
    | some read => read bytes
    | none => some (lossyText bytes)

end Cell

structure WireColumn where
  name : Text
  type : WireType
deriving DecidableEq, Repr

namespace WireColumn

/-- The values of one row in order; the first that cannot be read is the error. Of two columns of
one name the later value counts. -/
def decodeFrom (index : Nat) (row : Row) : List (WireColumn × Option (List UInt8)) →
    List Event × Except Error Row
  | [] => ([], .ok row)
  | (column, bytes) :: rest =>
    let notice :=
      if Cell.isFallback column.type then [.unknownType column.name column.type.name] else []
    match Cell.decode? column.type bytes with
    | none =>
      (notice, .error (.decode column.name
        ("error deserializing column " ++ Nat.toDigits 10 index)))
    | some v =>
      let (notices, result) := decodeFrom (index + 1) (Row.put column.name v row) rest
      (notice ++ notices, result)

def decodeRow (cells : List (WireColumn × Option (List UInt8))) : List Event × Except Error Row :=
  decodeFrom 0 [] cells

end WireColumn

end FluentQuery
