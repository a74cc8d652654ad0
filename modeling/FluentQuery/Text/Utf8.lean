import FluentQuery.Text

/-! UTF-8. The strict reading accepts well-formed text only; the lossy one puts U+FFFD for every
maximal part of an ill-formed sequence. A text is cut at a byte only where no character is. -/
namespace FluentQuery.Text.Utf8

/-- The lead byte of a sequence: how many bytes follow, the bits it gives, and the range that the
second byte is confined to. -/
structure Lead where
  follow : Nat
  bits : Nat
  low : Nat
  high : Nat

def lead? (b : Nat) : Option Lead :=
  if b < 0x80 then some ⟨0, b, 0, 0⟩
  else if 0xC2 ≤ b ∧ b ≤ 0xDF then some ⟨1, b - 0xC0, 0x80, 0xBF⟩
  else if b = 0xE0 then some ⟨2, 0, 0xA0, 0xBF⟩
  else if b = 0xED then some ⟨2, 0xD, 0x80, 0x9F⟩
  else if 0xE1 ≤ b ∧ b ≤ 0xEF then some ⟨2, b - 0xE0, 0x80, 0xBF⟩
  else if b = 0xF0 then some ⟨3, 0, 0x90, 0xBF⟩
  else if b = 0xF4 then some ⟨3, 4, 0x80, 0x8F⟩
  else if 0xF1 ≤ b ∧ b ≤ 0xF3 then some ⟨3, b - 0xF0, 0x80, 0xBF⟩
  else none

/-- The bytes that follow a lead, as far as they are well formed: whether all came, the code point
so far, and how many were taken. -/
def tail (follow bits low high : Nat) : List UInt8 → Bool × Nat × Nat
  | [] => (follow == 0, bits, 0)
  | b :: rest =>
    match follow with
    | 0 => (true, bits, 0)
    | follow + 1 =>
      if low ≤ b.toNat ∧ b.toNat ≤ high then
        let (done, code, taken) := tail follow (bits * 64 + (b.toNat - 0x80)) 0x80 0xBF rest
        (done, code, taken + 1)
      else (false, bits, 0)

/-- The first character of a byte text if it is well formed, and how many bytes it or its
ill-formed part takes. -/
def first : List UInt8 → Option Char × Nat
  | [] => (none, 0)
  | b :: rest =>
    match lead? b.toNat with
    | none => (none, 1)
    | some l =>
      let (done, code, taken) := tail l.follow l.bits l.low l.high rest
      (if done then some (Char.ofNat code) else none, taken + 1)

theorem first_pos (b : UInt8) (rest : List UInt8) : 0 < (first (b :: rest)).2 := by
  simp only [first]
  split <;> simp

/-- The characters of a byte text, `none` for each ill-formed part. -/
def units (bytes : List UInt8) : List (Option Char) :=
  match bytes with
  | [] => []
  | b :: rest => (first (b :: rest)).1 :: units ((b :: rest).drop (first (b :: rest)).2)
termination_by bytes.length
decreasing_by
  have := first_pos b rest
  simp [List.length_drop]
  omega

def decode? (bytes : List UInt8) : Option Text :=
  (units bytes).mapM id

def decodeLossy (bytes : List UInt8) : Text :=
  (units bytes).map fun c => c.getD (Char.ofNat 0xFFFD)

/-! Places in a text -/

/-- The number of bytes of a text. -/
def size (t : Text) : Nat :=
  (String.ofList t).utf8ByteSize

/-- The last place at or before byte `n` that lies between two characters, looked for backwards,
byte by byte. -/
def floor (s : String) : Nat → String.Pos.Raw
  | 0 => 0
  | n + 1 => if (⟨n + 1⟩ : String.Pos.Raw).isValid s then ⟨n + 1⟩ else floor s n

theorem isValid_floor (s : String) (n : Nat) : (floor s n).IsValid s := by
  induction n with
  | zero => exact String.Pos.Raw.isValid_zero
  | succ n ih =>
    rw [floor]
    split
    · next between => exact String.Pos.Raw.isValid_eq_true_iff.1 between
    · exact ih

/-- What stands before that place. -/
def before (s : String) (n : Nat) : Text :=
  (s.sliceTo ⟨floor s n, isValid_floor s n⟩).copy.toList

end FluentQuery.Text.Utf8
