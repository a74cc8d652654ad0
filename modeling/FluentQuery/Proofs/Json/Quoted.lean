import FluentQuery.Json.Printer
import FluentQuery.Json.Reader

/-! Quoted texts read back: each escape gives its character, and the first bare quote ends the
text. -/
namespace FluentQuery.Json

theorem hexUnit?_ofByte {n : Nat} (small : n < 256) :
    hexUnit? '0' '0' (Nat.digitChar (n / 16)) (Nat.digitChar (n % 16)) = some n := by
  have byte := Text.Hex.byte?_ofByte (UInt8.ofNat n)
  rw [UInt8.toNat_ofNat_of_lt' small] at byte
  have zero : Text.Hex.byte? '0' '0' = some 0 := by decide
  simp [hexUnit?, byte, zero]

/-- One escaped character at the head. -/
theorem stringBody?_escape (c : Char) (rest : Text) :
    stringBody? (escape c ++ rest) = (stringBody? rest).map fun x => (c :: x.1, x.2) := by
  unfold escape
  split
  · next quote => subst quote; simp [stringBody?, unescape?]
  split
  · next slash => subst slash; simp [stringBody?, unescape?]
  split
  · next line => subst line; simp [stringBody?, unescape?]
  split
  · next feed => subst feed; simp [stringBody?, unescape?]
  split
  · next tab => subst tab; simp [stringBody?, unescape?]
  split
  · next back =>
    obtain rfl : c = Char.ofNat 0x8 := by rw [← back, Char.ofNat_toNat]
    simp [stringBody?, unescape?]
  split
  · next page =>
    obtain rfl : c = Char.ofNat 0xC := by rw [← page, Char.ofNat_toNat]
    simp [stringBody?, unescape?]
  split
  · next control =>
    have same : Char.ofNat c.toNat = c := Char.ofNat_toNat c
    have high : isHighSurrogate c.toNat = false := by simp [isHighSurrogate]; omega
    have low : isLowSurrogate c.toNat = false := by simp [isLowSurrogate]; omega
    simp only [Text.Hex.ofByte, List.cons_append, List.nil_append]
    rw [stringBody?]
    simp [hexUnit?_ofByte (show c.toNat < 256 by omega), high, low, same]
  · next quote slash _ _ _ _ _ plain =>
    have kept : ¬ (c.toNat < 0x20 ∨ c = '\\') := by
      rintro (control | rfl)
      · exact plain control
      · exact slash rfl
    rw [List.singleton_append, stringBody?, if_neg kept]
    · exact quote
    · exact fun _ _ _ _ _ backslash => absurd backslash slash
    · exact fun _ _ backslash => absurd backslash slash

/-- A quoted text reads back, whatever follows it. -/
theorem stringBody?_quoted (t rest : Text) :
    stringBody? (t.flatMap escape ++ '"' :: rest) = some (t, rest) := by
  induction t with
  | nil => rw [List.flatMap_nil, List.nil_append, stringBody?]
  | cons c t ih =>
    rw [List.flatMap_cons, List.append_assoc, stringBody?_escape, ih, Option.map_some]

theorem quoted_append_inj {t u rest more : Text} (same : quoted t ++ rest = quoted u ++ more) :
    t = u ∧ rest = more := by
  have body : t.flatMap escape ++ '"' :: rest = u.flatMap escape ++ '"' :: more := by
    simpa [quoted] using same
  have read := stringBody?_quoted t rest
  rw [body, stringBody?_quoted] at read
  obtain ⟨rfl, rfl⟩ := Prod.mk.inj (Option.some.inj read)
  exact ⟨rfl, rfl⟩

end FluentQuery.Json
