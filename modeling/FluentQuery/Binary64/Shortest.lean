import FluentQuery.Binary64
import FluentQuery.Text

/-! The fewest decimal digits that read back as the same double, and how they are laid out. A grid
of `n` digits around the value is tried for `n` from 1 to 17; the first grid with a point that
rounds to the value wins, and of two such points the nearer, with the even one on a tie. -/
namespace FluentQuery.Binary64

/-- The number `digits * 10 ^ power`. -/
structure Decimal where
  digits : Nat
  power : Int
deriving DecidableEq, Repr

def digitCount (n : Nat) : Nat :=
  (Nat.toDigits 10 n).length

/-- The exponent of the leading decimal digit of a positive quotient. -/
def leadingPower (num den : Nat) : Int :=
  let guess : Int := (digitCount num : Int) - digitCount den
  let reaches : Bool :=
    if guess < 0 then den ≤ num * 10 ^ guess.natAbs else den * 10 ^ guess.natAbs ≤ num
  if reaches then guess else guess - 1

/-- The reals that round to a magnitude, over the denominator `2 ^ 1076`. The lower half of the
gap is narrower at a power of two. -/
structure Interval where
  low : Nat
  high : Nat
  closed : Bool

def Magnitude.interval (m : Magnitude) : Interval :=
  let unit := 2 ^ m.scale
  { low := (4 * m.significand - if m.significand = 2 ^ 52 ∧ m.scale ≠ 0 then 1 else 2) * unit
    high := (4 * m.significand + 2) * unit
    closed := m.significand % 2 = 0 }

/-- Whether `num / den` lies in the interval. -/
def Interval.holds (i : Interval) (num den : Nat) : Bool :=
  let scaled := num * 2 ^ 1076
  if i.closed then i.low * den ≤ scaled && scaled ≤ i.high * den
  else i.low * den < scaled && scaled < i.high * den

/-- The point of the grid of `count` digits that reads back as the magnitude, if there is one. -/
def onGrid? (m : Magnitude) (count : Nat) : Option Decimal :=
  let num := m.significand * 2 ^ m.scale
  let den := 2 ^ 1074
  let power := leadingPower num den + 1 - count
  let up := 10 ^ power.toNat
  let down := 10 ^ (-power).toNat
  -- The value over the grid step is `num * down / (den * up)`.
  let low := num * down / (den * up)
  let reads (d : Nat) : Bool := m.interval.holds (d * up) down
  match reads low, reads (low + 1) with
  | false, false => none
  | true, false => some ⟨low, power⟩
  | false, true => some ⟨low + 1, power⟩
  | true, true => some ⟨roundHalfEven (num * down) (den * up), power⟩

/-- The shortest decimal of a positive magnitude. -/
def Magnitude.shortest (m : Magnitude) : Decimal :=
  ((List.range 17).findSome? fun n => onGrid? m (n + 1)).getD ⟨0, 0⟩

/-- The choices of a number format. -/
structure Layout where
  /-- Decimal exponents from here on are written positionally, … -/
  plainFrom : Int
  /-- … up to here. -/
  plainTo : Int
  /-- Written after a positional number without a fraction. -/
  wholeMark : Text

/-- Positional from `1e-5` to below `1e16`, always with a fraction there; beyond, an exponent with
its sign. -/
def layout : Layout := ⟨-5, 15, ".0"⟩

/-- The digits without trailing zeros, with the power adjusted. -/
def Decimal.strip (d : Decimal) : Text × Int :=
  let text := Nat.toDigits 10 d.digits
  let kept := (text.reverse.dropWhile (· = '0')).reverse
  (kept, d.power + ((text.length : Int) - kept.length))

def Layout.write (l : Layout) (digits : Text) (power : Int) : Text :=
  let exponent := power + digits.length - 1
  if l.plainFrom ≤ exponent ∧ exponent ≤ l.plainTo then
    if 0 ≤ power then digits ++ List.replicate power.toNat '0' ++ l.wholeMark
    else if 0 ≤ exponent then
      digits.take (exponent.toNat + 1) ++ ['.'] ++ digits.drop (exponent.toNat + 1)
    else ['0', '.'] ++ List.replicate (-exponent - 1).toNat '0' ++ digits
  else
    let mantissa := match digits with
      | [d] => [d]
      | d :: more => d :: '.' :: more
      | [] => []
    mantissa ++ ['e', if exponent < 0 then '-' else '+'] ++ Nat.toDigits 10 exponent.natAbs

/-- The text of a finite double; zero keeps its sign. -/
def render (x : Binary64) : Text :=
  let body :=
    if x.isZero then '0' :: layout.wholeMark
    else
      let (digits, power) := x.magnitude.shortest.strip
      layout.write digits power
  if x.isNegative then '-' :: body else body

end FluentQuery.Binary64
