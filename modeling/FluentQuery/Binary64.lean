import FluentQuery.Text

/-! Double-precision numbers as their 64 bits, with the exact rational that the bits denote.
`ofRatio` rounds to nearest with ties to even, so each arithmetic step here is one exact operation
on natural numbers and one rounding. -/
namespace FluentQuery

structure Binary64 where
  bits : UInt64
deriving DecidableEq, Repr

namespace Binary64

def isNegative (x : Binary64) : Bool :=
  2 ^ 63 ≤ x.bits.toNat

/-- The bits without the sign. -/
def magnitudeBits (x : Binary64) : Nat :=
  x.bits.toNat % 2 ^ 63

def infinityBits : Nat := 2047 * 2 ^ 52

def isFinite (x : Binary64) : Bool :=
  x.magnitudeBits < infinityBits

def isNaN (x : Binary64) : Bool :=
  infinityBits < x.magnitudeBits

/-- A finite magnitude is `significand * 2 ^ (scale - 1074)`. -/
structure Magnitude where
  significand : Nat
  scale : Nat
deriving DecidableEq, Repr

def magnitude (x : Binary64) : Magnitude :=
  let exponent := x.magnitudeBits / 2 ^ 52
  let fraction := x.magnitudeBits % 2 ^ 52
  if exponent = 0 then ⟨fraction, 0⟩ else ⟨fraction + 2 ^ 52, exponent - 1⟩

/-- Numerator and denominator of a finite magnitude. -/
def ratio (x : Binary64) : Nat × Nat :=
  (x.magnitude.significand * 2 ^ x.magnitude.scale, 2 ^ 1074)

def ofBits (negative : Bool) (magnitude : Nat) : Binary64 :=
  ⟨UInt64.ofNat (magnitude + if negative then 2 ^ 63 else 0)⟩

/-- The quotient to the nearest integer, a half to the even neighbour. -/
def roundHalfEven (num den : Nat) : Nat :=
  let low := num / den
  let twice := 2 * (num % den)
  if twice < den ∨ (twice = den ∧ low % 2 = 0) then low else low + 1

/-- The scale at which `num / den` has a significand of 53 bits, or zero for a small quotient. -/
def scaleOf (num den : Nat) : Nat :=
  let guess := num.log2 + 1075 - den.log2 - 53
  if num * 2 ^ 1074 < 2 ^ 52 * (den * 2 ^ guess) then guess - 1 else guess

/-- The nearest double to `num / den`; beyond the largest one, infinity. -/
def ofRatio (negative : Bool) (num den : Nat) : Binary64 :=
  if num = 0 then ofBits negative 0
  else
    let scale := scaleOf num den
    let significand := roundHalfEven (num * 2 ^ 1074) (den * 2 ^ scale)
    ofBits negative (min (scale * 2 ^ 52 + significand) infinityBits)

def ofNat (n : Nat) : Binary64 :=
  ofRatio false n 1

/-- The rounded product of two finite magnitudes. -/
def mul (x y : Binary64) : Binary64 :=
  ofRatio false (x.ratio.1 * y.ratio.1) (x.ratio.2 * y.ratio.2)

/-- The rounded quotient of two finite magnitudes. -/
def div (x y : Binary64) : Binary64 :=
  ofRatio false (x.ratio.1 * y.ratio.2) (x.ratio.2 * y.ratio.1)

/-- The rounded sum of two finite magnitudes. -/
def add (x y : Binary64) : Binary64 :=
  ofRatio false (x.ratio.1 * y.ratio.2 + y.ratio.1 * x.ratio.2) (x.ratio.2 * y.ratio.2)

/-- A power of a finite magnitude, multiplied together from its repeated squares, each product
rounded. -/
def pow (x : Binary64) (n : Nat) : Binary64 :=
  go x n (ofNat 1)
where
  go (square : Binary64) (n : Nat) (product : Binary64) : Binary64 :=
    let product := if n % 2 = 1 then product.mul square else product
    if n / 2 = 0 then product else go (square.mul square) (n / 2) product
  termination_by n

/-- A finite magnitude to the nearest integer, a half away from zero. -/
def round (x : Binary64) : Binary64 :=
  ofNat ((2 * x.ratio.1 + x.ratio.2) / (2 * x.ratio.2))

def neg (x : Binary64) : Binary64 :=
  ofBits (!x.isNegative) x.magnitudeBits

def zero : Binary64 := ⟨0⟩

def isZero (x : Binary64) : Bool :=
  x.magnitudeBits = 0

/-- The integer part, toward zero. -/
def truncate (x : Binary64) : Int :=
  let whole : Int := (x.ratio.1 / x.ratio.2 : Nat)
  if x.isNegative then -whole else whole

/-- A single-precision number as a double; every finite one is exact. -/
def ofSingleBits (bits : Nat) : Binary64 :=
  let negative := 2 ^ 31 ≤ bits
  let exponent := bits / 2 ^ 23 % 2 ^ 8
  let fraction := bits % 2 ^ 23
  if exponent = 255 then
    ofBits negative (infinityBits + fraction * 2 ^ 29)
  else if exponent = 0 then ofRatio negative fraction (2 ^ 149)
  else ofRatio negative ((fraction + 2 ^ 23) * 2 ^ (exponent - 1)) (2 ^ 149)

example : ofNat 1 = ⟨0x3FF0000000000000⟩ := by decide +kernel
example : ofRatio false 1 10 = ⟨0x3FB999999999999A⟩ := by decide +kernel
example : ofRatio false 1 (2 ^ 1075) = ⟨0⟩ := by decide +kernel
example : ofRatio true 0 7 = ⟨0x8000000000000000⟩ := by decide +kernel
example : (ofNat 10).pow 22 = ofNat (10 ^ 22) := by decide +kernel
example : (ofRatio false 5 2).round = ofNat 3 := by decide +kernel
example : ofRatio true (10 ^ 309) 1 = ⟨0xFFF0000000000000⟩ := by decide +kernel

end Binary64

end FluentQuery
