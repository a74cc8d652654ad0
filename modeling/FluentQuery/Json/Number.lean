import FluentQuery.Json

/-! Reading a JSON number. A plain integer of 64 bits stays an integer; all else is a double, read
in two roundings: the digits that fit an unsigned 64-bit number are rounded, then multiplied or
divided by the nearest power of ten. Negative zero is a double. -/
namespace FluentQuery.Json

def maxUnsigned : Nat := 2 ^ 64 - 1

def maxSigned : Nat := 2 ^ 63 - 1

/-- The number that the digits denote after `value`, and how many of them were taken before one
more would exceed 64 bits. -/
def gather (value : Nat) : Text → Nat × Nat
  | [] => (value, 0)
  | d :: rest =>
    let next := value * 10 + (d.toNat - '0'.toNat)
    if maxUnsigned < next then (value, 0)
    else
      let (final, taken) := gather next rest
      (final, taken + 1)

/-- The digits at the head, and what follows them. -/
def digits (t : Text) : Text × Text :=
  (t.takeWhile Char.isDigit, t.dropWhile Char.isDigit)

def powerOfTen (n : Nat) : Binary64 :=
  Binary64.ofNat (10 ^ n)

/-- Divides by a power of ten in steps of at most `10 ^ 308`. -/
def scaleDown (x : Binary64) (n : Nat) : Binary64 :=
  if x.isZero then x
  else if n ≤ 308 then x.div (powerOfTen n)
  else scaleDown (x.div (powerOfTen 308)) (n - 308)
termination_by n

/-- `significand * 10 ^ power`, or nothing beyond the largest double. -/
def scaled? (significand : Nat) (power : Int) : Option Binary64 :=
  let x := Binary64.ofNat significand
  if significand = 0 then some .zero
  else if power < 0 then some (scaleDown x power.natAbs)
  else if 308 < power then none
  else
    let y := x.mul (powerOfTen power.toNat)
    if y.isFinite then some y else none

def signed (negative : Bool) (x : Binary64) : Json :=
  .float (if negative then x.neg else x)

/-- A number without fraction and exponent. -/
def ofInteger (negative : Bool) (n : Nat) : Json :=
  if !negative then .int n
  else if n = 0 ∨ maxSigned + 1 < n then signed true (Binary64.ofNat n)
  else .int (-n)

/-- The digits after a point, of which there is at least one; nothing without a point. -/
def fraction? : Text → Option (Option Text × Text)
  | '.' :: rest =>
    let (ds, after) := digits rest
    if ds.isEmpty then none else some (some ds, after)
  | t => some (none, t)

/-- The exponent after a mark, of at least one digit; nothing without a mark. -/
def exponent? : Text → Option (Option Int × Text)
  | [] => some (none, [])
  | c :: rest =>
    if c = 'e' ∨ c = 'E' then
      let (negative, rest) := match rest with
        | '-' :: more => (true, more)
        | '+' :: more => (false, more)
        | more => (false, more)
      let (ds, after) := digits rest
      let n : Int := Nat.ofDigitChars 10 ds 0
      if ds.isEmpty then none else some (some (if negative then -n else n), after)
    else some (none, c :: rest)

/-- Reads the number at the head of a text. A leading zero stands alone. -/
def number? (t : Text) : Option (Json × Text) := do
  let (negative, unsigned) := match t with
    | '-' :: rest => (true, rest)
    | rest => (false, rest)
  let (whole, rest) := digits unsigned
  if whole.isEmpty || (whole.length != 1 && whole.head? == some '0') then none
  else
    let (places, rest) ← fraction? rest
    let (exponent, rest) ← exponent? rest
    let (value, taken) := gather 0 whole
    if places.isNone && exponent.isNone && taken == whole.length then
      some (ofInteger negative value, rest)
    else
      let (significand, more) := gather value (places.getD [])
      let power : Int := ((whole.length : Int) - taken) - more + exponent.getD 0
      let x ← scaled? significand power
      some (signed negative x, rest)

end FluentQuery.Json
