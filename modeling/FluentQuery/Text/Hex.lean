import FluentQuery.Text

/-! Bytes as pairs of hexadecimal digits. Both cases are read, lower case is written. -/
namespace FluentQuery.Text.Hex

def value? (c : Char) : Option Nat :=
  if c.isDigit then some (c.toNat - '0'.toNat)
  else if 'a' ≤ c ∧ c ≤ 'f' then some (c.toNat - 'a'.toNat + 10)
  else if 'A' ≤ c ∧ c ≤ 'F' then some (c.toNat - 'A'.toNat + 10)
  else none

/-- The two digits of a byte. -/
def ofByte (n : Nat) : Text :=
  [Nat.digitChar (n / 16), Nat.digitChar (n % 16)]

/-- The byte that two digits denote. -/
def byte? (high low : Char) : Option Nat := do
  let h ← value? high
  let l ← value? low
  some (h * 16 + l)

def encode (bytes : List UInt8) : Text :=
  bytes.flatMap fun b => ofByte b.toNat

theorem value?_digitChar : ∀ n < 16, value? (Nat.digitChar n) = some n := by
  decide

theorem byte?_ofByte (b : UInt8) :
    byte? (Nat.digitChar (b.toNat / 16)) (Nat.digitChar (b.toNat % 16)) = some b.toNat := by
  have h := b.toNat_lt
  simp only [byte?, value?_digitChar _ (show b.toNat / 16 < 16 by omega),
    value?_digitChar _ (show b.toNat % 16 < 16 by omega), Option.bind_eq_bind, Option.bind_some]
  congr 1
  omega

end FluentQuery.Text.Hex
