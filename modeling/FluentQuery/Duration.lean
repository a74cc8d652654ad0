import FluentQuery.Text

/-! Lengths of time in nanoseconds, written in the largest unit that leaves a whole part. -/
namespace FluentQuery

structure Duration where
  nanos : Nat
deriving DecidableEq, Repr

namespace Duration

def ofMillis (n : Nat) : Duration := ⟨n * 10 ^ 6⟩

/-- The `places` digits of a fraction without its trailing zeros, after a point if any is left. -/
def fractionText (value places : Nat) : Text :=
  let digits := Nat.toDigits 10 value
  let padded := List.replicate (places - digits.length) '0' ++ digits
  match (padded.reverse.dropWhile (· = '0')).reverse with
  | [] => []
  | kept => '.' :: kept

/-- The number over `10 ^ places` followed by a unit. -/
def inUnit (nanos places : Nat) (unit : Text) : Text :=
  Nat.toDigits 10 (nanos / 10 ^ places) ++
    (if nanos % 10 ^ places = 0 then [] else fractionText (nanos % 10 ^ places) places) ++ unit

def render (d : Duration) : Text :=
  if 10 ^ 9 ≤ d.nanos then inUnit d.nanos 9 "s"
  else if 10 ^ 6 ≤ d.nanos then inUnit d.nanos 6 "ms"
  else if 10 ^ 3 ≤ d.nanos then inUnit d.nanos 3 "µs"
  else inUnit d.nanos 0 "ns"

example : render ⟨0⟩ = "0ns" := by decide
example : render ⟨1500⟩ = "1.5µs" := by decide
example : render ⟨1000000001⟩ = "1.000000001s" := by decide +kernel

end Duration

end FluentQuery
