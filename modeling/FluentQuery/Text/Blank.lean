import FluentQuery.Text

/-! Blank characters are those of the Unicode property White_Space, and trimming removes them at
both ends. -/
namespace FluentQuery.Text

/-- The 25 characters of White_Space; U+200B and U+FEFF are not among them. -/
def blankCodes : List Nat :=
  [0x9, 0xA, 0xB, 0xC, 0xD, 0x20, 0x85, 0xA0, 0x1680, 0x2000, 0x2001, 0x2002, 0x2003, 0x2004,
    0x2005, 0x2006, 0x2007, 0x2008, 0x2009, 0x200A, 0x2028, 0x2029, 0x202F, 0x205F, 0x3000]

def isBlank (c : Char) : Bool :=
  blankCodes.contains c.toNat

def trimLeft (t : Text) : Text :=
  t.dropWhile isBlank

def trimRight (t : Text) : Text :=
  (t.reverse.dropWhile isBlank).reverse

def trim (t : Text) : Text :=
  trimRight (trimLeft t)

/-- No blank stands at either end. -/
def Trimmed (t : Text) : Prop :=
  (∀ c ∈ t.head?, isBlank c = false) ∧ (∀ c ∈ t.getLast?, isBlank c = false)

instance (t : Text) : Decidable (Trimmed t) :=
  inferInstanceAs (Decidable (_ ∧ _))

theorem length_trimLeft_le (t : Text) : (trimLeft t).length ≤ t.length :=
  (List.dropWhile_suffix isBlank).length_le

theorem length_trimRight_le (t : Text) : (trimRight t).length ≤ t.length := by
  have h := (List.dropWhile_suffix isBlank (l := t.reverse)).length_le
  simpa [trimRight] using h

theorem length_trim_le (t : Text) : (trim t).length ≤ t.length :=
  Nat.le_trans (length_trimRight_le _) (length_trimLeft_le t)

end FluentQuery.Text
