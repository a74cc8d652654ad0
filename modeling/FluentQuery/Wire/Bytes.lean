import FluentQuery.Text

/-! Big-endian numbers at the head of a byte text. -/
namespace FluentQuery.Bytes

def toNat (bytes : List UInt8) : Nat :=
  bytes.foldl (fun n b => n * 256 + b.toNat) 0

/-- The signed reading of a number of `width` bytes. -/
def signed (width n : Nat) : Int :=
  if n < 2 ^ (8 * width - 1) then n else (n : Int) - 2 ^ (8 * width)

/-- The first `count` bytes and the rest, if there are so many. -/
def split? (count : Nat) (bytes : List UInt8) : Option (List UInt8 × List UInt8) :=
  if count ≤ bytes.length then some (bytes.take count, bytes.drop count) else none

def unsigned? (width : Nat) (bytes : List UInt8) : Option (Nat × List UInt8) :=
  (split? width bytes).map fun (head, rest) => (toNat head, rest)

def signed? (width : Nat) (bytes : List UInt8) : Option (Int × List UInt8) :=
  (unsigned? width bytes).map fun (n, rest) => (signed width n, rest)

/-- The whole text as one unsigned number. -/
def exactly? (width : Nat) (bytes : List UInt8) : Option Nat :=
  if bytes.length = width then some (toNat bytes) else none

/-- The whole text as one signed number. -/
def exactlySigned? (width : Nat) (bytes : List UInt8) : Option Int :=
  (exactly? width bytes).map (signed width)

end FluentQuery.Bytes
