import FluentQuery.Text

/-! Days and microseconds since the start of the year 2000 as dates and times of the proleptic
Gregorian calendar. -/
namespace FluentQuery

structure Date where
  year : Int
  month : Nat
  day : Nat
deriving DecidableEq, Repr

namespace Date

/-- Years are counted from March, so that a leap day ends its year; `400` of them have `146097`
days. -/
def ofDays (days : Int) : Date :=
  let fromMarch := days + 730425
  let era := Int.fdiv fromMarch 146097
  let ofEra := (fromMarch - era * 146097).toNat
  let years := (ofEra - ofEra / 1460 + ofEra / 36524 - ofEra / 146096) / 365
  let ofYear := ofEra - (365 * years + years / 4 - years / 100)
  let months := (5 * ofYear + 2) / 153
  let day := ofYear - (153 * months + 2) / 5 + 1
  let month := if months < 10 then months + 3 else months - 9
  ⟨years + era * 400 + (if month ≤ 2 then 1 else 0), month, day⟩

/-- Dates outside these years are not representable. -/
def inRange (d : Date) : Bool :=
  -262143 ≤ d.year && d.year ≤ 262142

def ofDays? (days : Int) : Option Date :=
  if (ofDays days).inRange then some (ofDays days) else none

/-- The digits of a number, with zeros in front up to a width. -/
def padded (width n : Nat) : Text :=
  let digits := Nat.toDigits 10 n
  List.replicate (width - digits.length) '0' ++ digits

/-- Four digits; a year beyond them has a sign. -/
def yearText (year : Int) : Text :=
  if year < 0 then '-' :: padded 4 year.natAbs
  else if 9999 < year then '+' :: padded 4 year.natAbs
  else padded 4 year.natAbs

def render (d : Date) : Text :=
  yearText d.year ++ '-' :: padded 2 d.month ++ '-' :: padded 2 d.day

example : render (ofDays 0) = "2000-01-01" := by decide +kernel
example : render (ofDays (-1)) = "1999-12-31" := by decide +kernel
example : render (ofDays 60) = "2000-03-01" := by decide +kernel

end Date

namespace TimeOfDay

def microsPerDay : Nat := 86400 * 10 ^ 6

/-- No fraction, or three or six digits of it. -/
def fraction (micros : Nat) : Text :=
  if micros = 0 then []
  else if micros % 1000 = 0 then '.' :: Date.padded 3 (micros / 1000)
  else '.' :: Date.padded 6 micros

/-- The time of day of a number of microseconds below a day. -/
def render (micros : Nat) : Text :=
  let seconds := micros / 10 ^ 6
  Date.padded 2 (seconds / 3600) ++ ':' :: Date.padded 2 (seconds / 60 % 60) ++
    ':' :: Date.padded 2 (seconds % 60) ++ fraction (micros % 10 ^ 6)

/-- Any number of microseconds, taken modulo a day. -/
def ofMicros (micros : Int) : Text :=
  render (Int.fmod micros microsPerDay).toNat

end TimeOfDay

/-- A moment by its microseconds: the date, `T` and the time. -/
def momentText? (micros : Int) : Option Text :=
  (Date.ofDays? (Int.fdiv micros TimeOfDay.microsPerDay)).map fun d =>
    d.render ++ 'T' :: TimeOfDay.ofMicros micros

end FluentQuery
