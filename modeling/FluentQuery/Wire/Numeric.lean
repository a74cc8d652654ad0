import FluentQuery.Json
import FluentQuery.Wire.Bytes

/-! Numbers of arbitrary precision, sent in groups of four decimal digits. They are read into at
most 96 bits with at most 28 decimal places; what does not fit fails. -/
namespace FluentQuery

/-- The number `mantissa / 10 ^ places`. -/
structure FixedPoint where
  mantissa : Nat
  places : Nat
deriving DecidableEq, Repr

namespace FixedPoint

def maxMantissa : Nat := 2 ^ 96 - 1

def maxPlaces : Nat := 28

/-- Drops as few decimal places as make the mantissa fit, rounding a half to even. -/
def fit? (x : FixedPoint) : Option FixedPoint :=
  ((List.range (x.places + 1)).find? fun dropped =>
      Binary64.roundHalfEven x.mantissa (10 ^ dropped) ≤ maxMantissa).map fun dropped =>
    ⟨Binary64.roundHalfEven x.mantissa (10 ^ dropped), x.places - dropped⟩

def add? (x y : FixedPoint) : Option FixedPoint :=
  let places := max x.places y.places
  fit? ⟨x.mantissa * 10 ^ (places - x.places) + y.mantissa * 10 ^ (places - y.places), places⟩

/-- Adds a group of digits that ends at the given place; beyond the last place it only rounds. -/
def addGroup? (x : FixedPoint) (place digit : Nat) : Option FixedPoint :=
  if place ≤ maxPlaces then x.add? ⟨digit, place⟩
  else if place = maxPlaces + 4 ∧ 5000 ≤ digit then x.add? ⟨1, maxPlaces⟩
  else some x

/-- Adds so many places of zeros, or as many as fit. -/
def pad (x : FixedPoint) : Nat → FixedPoint
  | 0 => x
  | n + 1 =>
    if x.mantissa * 10 ≤ maxMantissa ∧ x.places < maxPlaces then
      pad ⟨x.mantissa * 10, x.places + 1⟩ n
    else x

/-- Rounds to fewer places, a half away from zero, or pads to more. -/
def rescale (x : FixedPoint) (places : Nat) : FixedPoint :=
  if places < x.places then
    ⟨(x.mantissa + 5 * 10 ^ (x.places - places - 1)) / 10 ^ (x.places - places), places⟩
  else x.pad (min places maxPlaces - x.places)

/-- A double near the number: the whole part and the fraction are rounded apart, and their sum is
rounded once more at the last place. -/
def toBinary64 (x : FixedPoint) : Binary64 :=
  let unit := 10 ^ x.places
  let whole := Binary64.ofNat (x.mantissa / unit)
  let fraction := (Binary64.ofNat (x.mantissa % unit)).div (.ofNat unit)
  if fraction.isZero then whole
  else
    let shift := (Binary64.ofNat 10).pow x.places
    ((whole.add fraction).mul shift).round.div shift

/-- A number with its sign. -/
structure Signed where
  negative : Bool
  magnitude : FixedPoint
deriving DecidableEq, Repr

namespace Signed

/-- The number in decimal digits, with all its places. -/
def text (x : Signed) : Text :=
  let unit := 10 ^ x.magnitude.places
  let whole := Nat.toDigits 10 (x.magnitude.mantissa / unit)
  let fraction := Nat.toDigits 10 (x.magnitude.mantissa % unit)
  let body :=
    if x.magnitude.places = 0 then whole
    else whole ++ ['.'] ++ List.replicate (x.magnitude.places - fraction.length) '0' ++ fraction
  if x.negative then '-' :: body else body

/-- An integer of 64 bits stays one; any other value is a double, or its text if the double is not
finite. -/
def toJson (x : Signed) : Json :=
  let unit := 10 ^ x.magnitude.places
  let whole : Int := (x.magnitude.mantissa / unit : Nat)
  let value := if x.negative then -whole else whole
  if x.magnitude.mantissa % unit = 0 ∧ -2 ^ 63 ≤ value ∧ value < 2 ^ 63 then .int value
  else
    let size := x.magnitude.toBinary64
    let double := if x.negative then size.neg else size
    if double.isFinite then .float double else .str x.text

end Signed

end FixedPoint

/-- A number as it is sent: base-10000 digits, the first of them of weight `10000 ^ weight`. -/
structure Numeric where
  negative : Bool
  weight : Int
  scale : Nat
  digits : List Nat
deriving DecidableEq, Repr

namespace Numeric

def readDigits? : Nat → List UInt8 → Option (List Nat)
  | 0, _ => some []
  | count + 1, bytes =>
    match Bytes.unsigned? 2 bytes with
    | some (digit, rest) => (readDigits? count rest).map (digit :: ·)
    | none => none

/-- Reads a number; infinities and not-a-number have signs of their own and fail. -/
def read? (bytes : List UInt8) : Option Numeric := do
  let (count, bytes) ← Bytes.unsigned? 2 bytes
  let (weight, bytes) ← Bytes.signed? 2 bytes
  let (sign, bytes) ← Bytes.unsigned? 2 bytes
  let (scale, bytes) ← Bytes.unsigned? 2 bytes
  let digits ← readDigits? count bytes
  if sign = 0xC000 ∨ sign = 0xD000 ∨ sign = 0xF000 then none
  else some ⟨sign = 0x4000, weight, scale, digits⟩

def bounded? (n : Nat) : Option Nat :=
  if n ≤ FixedPoint.maxMantissa then some n else none

/-- The integer that the leading groups denote, followed by `zeros` groups of zeros. -/
def whole? (digits : List Nat) (zeros : Nat) : Option Nat := do
  let n ← digits.foldlM (fun n digit => bounded? (n * 10000 + digit)) 0
  if FixedPoint.maxPlaces < 4 * zeros then none else bounded? (n * 10 ^ (4 * zeros))

/-- Adds the groups after the point, the first of which ends at the given place. -/
def addFraction? (x : FixedPoint) (place : Nat) : List Nat → Option FixedPoint
  | [] => some x
  | digit :: rest => do
    let x ← x.addGroup? place digit
    addFraction? x (place + 4) rest

def toFixedPoint? (n : Numeric) : Option FixedPoint := do
  let groups := (n.weight + 1).toNat
  let whole ← if groups = 0 then some 0
    else whole? (n.digits.take groups) (groups - n.digits.length)
  let skipped := (-n.weight - 1).toNat
  let x ← addFraction? ⟨whole, 0⟩ (4 * (skipped + 1)) (n.digits.drop groups)
  some (x.rescale n.scale)

def toSigned? (n : Numeric) : Option FixedPoint.Signed :=
  n.toFixedPoint?.map fun x => ⟨n.negative, x⟩

def toJson? (n : Numeric) : Option Json :=
  n.toSigned?.map FixedPoint.Signed.toJson

end Numeric

end FluentQuery
