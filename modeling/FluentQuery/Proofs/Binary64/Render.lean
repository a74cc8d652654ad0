import FluentQuery.Proofs.Binary64.Shortest
import Mathlib.Data.List.TakeWhile
import Mathlib.Tactic.FieldSimp

/-! Different doubles have different texts. What is written for a decimal is a numeral of its
value, wherever the point is put; a numeral has one value; and the value of a double's numeral lies
in the interval of no other double. -/
namespace FluentQuery

/-- The first separator cuts a text in one way only. -/
theorem Text.cut_inj {sep : Char} {before before' after after' : Text} (free : sep ∉ before)
    (free' : sep ∉ before') (same : before ++ sep :: after = before' ++ sep :: after') :
    before = before' ∧ after = after' := by
  have cut := cut?_append after free
  rw [same, cut?_append after' free'] at cut
  obtain ⟨rfl, rfl⟩ := Prod.mk.inj (Option.some.inj cut)
  exact ⟨rfl, rfl⟩

namespace Binary64

/-! Digits -/

def AllDigits (t : Text) : Prop :=
  ∀ c ∈ t, c.isDigit = true

theorem AllDigits.append {t u : Text} (first : AllDigits t) (second : AllDigits u) :
    AllDigits (t ++ u) := by
  intro c member
  exact (List.mem_append.1 member).elim (first c) (second c)

theorem AllDigits.notMem {t : Text} (digits : AllDigits t) {c : Char} (other : c.isDigit = false) :
    c ∉ t := by
  intro member
  rw [digits c member] at other
  cases other

theorem allDigits_zeros (n : Nat) : AllDigits (List.replicate n '0') := by
  intro c member
  rw [List.eq_of_mem_replicate member]
  rfl

theorem allDigits_toDigits (n : Nat) : AllDigits (Nat.toDigits 10 n) :=
  fun _ member => Nat.isDigit_of_mem_toDigits (by omega) (by omega) member

theorem toDigits_inj {n m : Nat} (same : Nat.toDigits 10 n = Nat.toDigits 10 m) : n = m := by
  have size := congrArg (Nat.ofDigitChars 10 · 0) same
  simpa only [Nat.ofDigitChars_ten_toDigits] using size

theorem ofDigitChars_append_zeros (digits : Text) (n : Nat) :
    Nat.ofDigitChars 10 (digits ++ List.replicate n '0') 0 =
      Nat.ofDigitChars 10 digits 0 * 10 ^ n := by
  rw [Nat.ofDigitChars_append, Nat.ofDigitChars_replicate_zero, Nat.mul_comm]

theorem ofDigitChars_zeros_append (digits : Text) (n : Nat) :
    Nat.ofDigitChars 10 (List.replicate n '0' ++ digits) 0 = Nat.ofDigitChars 10 digits 0 := by
  rw [Nat.ofDigitChars_append, Nat.ofDigitChars_replicate_zero, Nat.mul_zero]

/-! Numerals -/

/-- The digits with a point after the first, if there are more. -/
def pointed : Text → Text
  | [d] => [d]
  | d :: more => d :: '.' :: more
  | [] => []

def exponentText (power : Int) : Text :=
  (if power < 0 then '-' else '+') :: Nat.toDigits 10 power.natAbs

/-- The texts of numbers without a sign, with their values: digits around a point, or few digits
and an exponent. -/
inductive Numeral : Text → ℚ → Prop where
  | point {whole places : Text} (filled : whole ≠ []) (digits : AllDigits (whole ++ places)) :
      Numeral (whole ++ '.' :: places)
        (Nat.ofDigitChars 10 (whole ++ places) 0 / 10 ^ places.length)
  | exponent {digits : Text} (filled : digits ≠ []) (all : AllDigits digits) (power : Int) :
      Numeral (pointed digits ++ 'e' :: exponentText power)
        (Nat.ofDigitChars 10 digits 0 * 10 ^ (power + 1 - digits.length))

theorem AllDigits.notMem_pointed {t : Text} (digits : AllDigits t) : 'e' ∉ pointed t := by
  have free := digits.notMem (c := 'e') rfl
  match t with
  | [] => exact free
  | [d] => exact free
  | d :: c :: more => simpa [pointed] using free

theorem pointed_inj {t u : Text} (first : AllDigits t) (second : AllDigits u)
    (same : pointed t = pointed u) : t = u := by
  have unpoint : ∀ {t : Text}, AllDigits t → (pointed t).filter (· ≠ '.') = t := by
    intro t digits
    have all : t.filter (· ≠ '.') = t :=
      List.filter_eq_self.2 fun c member => by
        have := digits.notMem (c := '.') rfl
        simp only [ne_eq, decide_not, Bool.not_eq_eq_eq_not, Bool.not_true, decide_eq_false_iff_not]
        rintro rfl
        exact this member
    match t with
    | [] => rfl
    | [d] => exact all
    | d :: c :: more => simpa [pointed, List.filter_cons] using all
  rw [← unpoint first, same, unpoint second]

theorem exponentText_inj {power other : Int} (same : exponentText power = exponentText other) :
    power = other := by
  obtain ⟨sign, digits⟩ := List.cons.inj same
  have size := toDigits_inj digits
  split at sign <;> split at sign
  · omega
  · cases sign
  · cases sign
  · omega

namespace Numeral

/-- A numeral has one value. -/
theorem value_eq {t u : Text} {v w : ℚ} (first : Numeral t v) (second : Numeral u w)
    (same : t = u) : v = w := by
  cases first with
  | @point whole places filled digits =>
    have free : 'e' ∉ whole ++ '.' :: places := by
      have := digits.notMem (c := 'e') rfl
      simpa using this
    cases second with
    | point filled' digits' =>
      have cut := Text.cut_inj (fun member => digits.notMem rfl (List.mem_append_left _ member))
        (fun member => digits'.notMem rfl (List.mem_append_left _ member)) same
      rw [cut.1, cut.2]
    | exponent filled' all power =>
      rw [same] at free
      simp at free
  | @exponent digits filled all power =>
    cases second with
    | @point whole places filled' digits' =>
      have free : 'e' ∉ whole ++ '.' :: places := by
        have := digits'.notMem (c := 'e') rfl
        simpa using this
      rw [← same] at free
      simp at free
    | exponent filled' all' power' =>
      have cut := Text.cut_inj all.notMem_pointed all'.notMem_pointed same
      rw [pointed_inj all all' cut.1, exponentText_inj cut.2]

end Numeral

theorem Numeral.congr {t : Text} {v w : ℚ} (numeral : Numeral t v) (same : v = w) : Numeral t w :=
  same ▸ numeral

section

variable {digits : Text} (filled : digits ≠ []) (all : AllDigits digits) {power : Int}

include all

/-- The point stands before all digits. -/
theorem numeral_before (none : power + digits.length - 1 < 0) :
    Numeral (['0', '.'] ++ List.replicate (-(power + digits.length - 1) - 1).toNat '0' ++ digits)
      (Nat.ofDigitChars 10 digits 0 * 10 ^ power) := by
  generalize zeros : (-(power + digits.length - 1) - 1).toNat = n
  have places : ((List.replicate n '0' ++ digits).length : Int) = -power := by
    rw [List.length_append, List.length_replicate]
    omega
  have leading : ['0'] ++ (List.replicate n '0' ++ digits) =
      List.replicate (n + 1) '0' ++ digits := by
    rw [List.replicate_succ]
    rfl
  have more : AllDigits (['0'] ++ (List.replicate n '0' ++ digits)) := by
    rw [leading]
    exact (allDigits_zeros (n + 1)).append all
  refine (Numeral.point (List.cons_ne_nil _ _) more).congr ?_
  rw [leading, ofDigitChars_zeros_append, div_eq_mul_inv, ← zpow_natCast, ← zpow_neg, places,
    neg_neg]

include filled

/-- A number without a fraction. -/
theorem numeral_whole (whole : 0 ≤ power) :
    Numeral (digits ++ List.replicate power.toNat '0' ++ layout.wholeMark)
      (Nat.ofDigitChars 10 digits 0 * 10 ^ power) := by
  obtain ⟨n, rfl⟩ := Int.eq_ofNat_of_zero_le whole
  have more : AllDigits (digits ++ List.replicate n '0' ++ ['0']) := by
    rw [List.append_assoc, ← List.replicate_succ']
    exact all.append (allDigits_zeros (n + 1))
  refine (Numeral.point (by simp [filled]) more).congr ?_
  rw [List.append_assoc, ← List.replicate_succ', ofDigitChars_append_zeros]
  push_cast
  rw [pow_succ, zpow_natCast, List.length_singleton, pow_one]
  ring

/-- The point stands among the digits. -/
theorem numeral_among (fraction : power < 0) (some : 0 ≤ power + digits.length - 1) :
    Numeral (digits.take ((power + digits.length - 1).toNat + 1) ++ ['.'] ++
        digits.drop ((power + digits.length - 1).toNat + 1))
      (Nat.ofDigitChars 10 digits 0 * 10 ^ power) := by
  have places : ((digits.drop ((power + digits.length - 1).toNat + 1)).length : Int) = -power := by
    rw [List.length_drop]
    omega
  rw [List.append_assoc, List.singleton_append]
  refine (Numeral.point (by simp [filled]) (by rwa [List.take_append_drop])).congr ?_
  rw [List.take_append_drop, div_eq_mul_inv, ← zpow_natCast, ← zpow_neg, places, neg_neg]

/-- What is written for digits and a power is a numeral of their number. -/
theorem numeral_write (power : Int) :
    Numeral (layout.write digits power) (Nat.ofDigitChars 10 digits 0 * 10 ^ power) := by
  unfold Layout.write
  extract_lets exponent mantissa
  split
  · split
    · next whole => exact numeral_whole filled all whole
    · next fraction =>
      split
      · next some => exact numeral_among filled all (by omega) some
      · next none => exact numeral_before all (by omega)
  · have written : mantissa ++ ['e', if exponent < 0 then '-' else '+'] ++
        Nat.toDigits 10 exponent.natAbs = pointed digits ++ 'e' :: exponentText exponent := by
      rw [List.append_assoc]
      rfl
    have sameValue : exponent + 1 - digits.length = power := by omega
    rw [written]
    exact (Numeral.exponent filled all exponent).congr (by rw [sameValue])

end

/-! Trailing zeros -/

/-- Stripping takes zeros from the end, and the power counts them. -/
theorem exists_strip (d : Decimal) : ∃ n : Nat,
    Nat.toDigits 10 d.digits = d.strip.1 ++ List.replicate n '0' ∧ d.strip.2 = d.power + n := by
  have split : Nat.toDigits 10 d.digits = d.strip.1 ++
      ((Nat.toDigits 10 d.digits).reverse.takeWhile (· = '0')).reverse := by
    rw [Decimal.strip, ← List.reverse_append, List.takeWhile_append_dropWhile, List.reverse_reverse]
  have zeros : ∀ c ∈ ((Nat.toDigits 10 d.digits).reverse.takeWhile (· = '0')).reverse, c = '0' := by
    intro c member
    simpa using List.mem_takeWhile_imp (List.mem_reverse.1 member)
  rw [List.eq_replicate_of_mem zeros] at split
  refine ⟨_, split, ?_⟩
  have counted := congrArg List.length split
  rw [List.length_append, List.length_replicate] at counted
  unfold Decimal.strip at counted ⊢
  simp only at counted ⊢
  omega

theorem allDigits_strip (d : Decimal) : AllDigits d.strip.1 := by
  obtain ⟨n, split, -⟩ := exists_strip d
  intro c member
  apply allDigits_toDigits d.digits
  rw [split]
  exact List.mem_append_left _ member

theorem digits_strip (d : Decimal) : ∃ n : Nat,
    Nat.ofDigitChars 10 d.strip.1 0 * 10 ^ n = d.digits ∧ d.strip.2 = d.power + n := by
  obtain ⟨n, split, power⟩ := exists_strip d
  refine ⟨n, ?_, power⟩
  rw [← ofDigitChars_append_zeros, ← split, Nat.ofDigitChars_ten_toDigits]

theorem strip_ne_nil {d : Decimal} (some : d.digits ≠ 0) : d.strip.1 ≠ [] := by
  obtain ⟨n, digits, -⟩ := digits_strip d
  intro empty
  rw [empty, Nat.ofDigitChars_nil, Nat.zero_mul] at digits
  exact some digits.symm

theorem numeral_strip {d : Decimal} (some : d.digits ≠ 0) :
    Numeral (layout.write d.strip.1 d.strip.2) (d.digits * 10 ^ d.power) := by
  refine (numeral_write (strip_ne_nil some) (allDigits_strip d) _).congr ?_
  obtain ⟨n, digits, power⟩ := digits_strip d
  rw [power, zpow_add₀ (by norm_num), ← digits, zpow_natCast]
  push_cast
  ring

/-! Doubles -/

/-- The text of a double without its sign. -/
def body (x : Binary64) : Text :=
  if x.isZero then '0' :: layout.wholeMark
  else layout.write x.magnitude.shortest.strip.1 x.magnitude.shortest.strip.2

theorem render_eq (x : Binary64) : x.render = if x.isNegative then '-' :: x.body else x.body := rfl

theorem isZero_eq_false_iff {x : Binary64} : x.isZero = false ↔ x.magnitudeBits ≠ 0 :=
  decide_eq_false_iff_not

theorem numeral_of_nonzero {x : Binary64} (some : x.isZero = false) :
    Numeral x.body (x.magnitude.shortest.digits * 10 ^ x.magnitude.shortest.power) := by
  rw [body, if_neg (by simp [some])]
  apply numeral_strip
  rw [magnitude_eq]
  exact shortest_digits_ne_zero (significand_pos (isZero_eq_false_iff.1 some)) (significand_lt _)

theorem numeral_of_zero {x : Binary64} (zero : x.isZero = true) : Numeral x.body 0 := by
  rw [body, if_pos zero]
  have digits : AllDigits (['0'] ++ ['0']) := allDigits_zeros 2
  exact (Numeral.point (List.cons_ne_nil _ _) digits).congr (by simp [Nat.ofDigitChars_cons])

/-- The text of a double is a numeral of a number in the interval of its bits, and of zero only
for zero. -/
theorem exists_numeral (x : Binary64) : ∃ v, Numeral x.body v ∧
    (x.magnitudeBits = 0 ∧ v = 0 ∨
      x.magnitudeBits ≠ 0 ∧ v ≠ 0 ∧ (magnitudeOf x.magnitudeBits).interval.Contains v) := by
  cases zero : x.isZero with
  | true => exact ⟨0, numeral_of_zero zero, .inl ⟨of_decide_eq_true zero, rfl⟩⟩
  | false =>
    have some := isZero_eq_false_iff.1 zero
    have positive := significand_pos some
    have digits := shortest_digits_ne_zero positive (significand_lt _)
    refine ⟨_, numeral_of_nonzero zero, .inr ⟨some, ?_, ?_⟩⟩
    · rw [magnitude_eq]
      exact mul_ne_zero (Nat.cast_ne_zero.2 digits) (zpow_ne_zero _ (by norm_num))
    · exact contains_shortest positive (significand_lt _)

theorem magnitudeBits_eq_of_body {x y : Binary64} (same : x.body = y.body) :
    x.magnitudeBits = y.magnitudeBits := by
  obtain ⟨v, first, inside⟩ := exists_numeral x
  obtain ⟨w, second, again⟩ := exists_numeral y
  obtain rfl := first.value_eq second same
  rcases inside with ⟨zero, rfl⟩ | ⟨-, some, inside⟩
  · rcases again with ⟨zero', -⟩ | ⟨-, some, -⟩
    · rw [zero, zero']
    · exact absurd rfl some
  · rcases again with ⟨-, rfl⟩ | ⟨-, -, again⟩
    · exact absurd rfl some
    · exact eq_of_contains inside again

/-- A numeral starts with a digit. -/
theorem Numeral.head {t : Text} {v : ℚ} (numeral : Numeral t v) :
    ∃ d rest, t = d :: rest ∧ d.isDigit = true := by
  cases numeral with
  | @point whole places filled digits =>
    obtain ⟨d, more, rfl⟩ := List.exists_cons_of_ne_nil filled
    exact ⟨d, _, rfl, digits d List.mem_cons_self⟩
  | @exponent digits filled all power =>
    match digits, filled, all with
    | [d], _, all => exact ⟨d, _, rfl, all d List.mem_cons_self⟩
    | d :: c :: more, _, all => exact ⟨d, _, rfl, all d List.mem_cons_self⟩

theorem bits_eq {x y : Binary64} (magnitude : x.magnitudeBits = y.magnitudeBits)
    (sign : x.isNegative = y.isNegative) : x = y := by
  have bits : x.bits.toNat = y.bits.toNat := by
    have := x.bits.toNat_lt
    have := y.bits.toNat_lt
    unfold magnitudeBits at magnitude
    unfold isNegative at sign
    rw [decide_eq_decide] at sign
    omega
  exact congrArg Binary64.mk (UInt64.toNat_inj.1 bits)

/-- Different doubles have different texts, also those that are no finite numbers. -/
theorem render_inj {x y : Binary64} (same : x.render = y.render) : x = y := by
  obtain ⟨v, first, -⟩ := exists_numeral x
  obtain ⟨w, second, -⟩ := exists_numeral y
  obtain ⟨c, rest, bodyX, digitX⟩ := first.head
  obtain ⟨d, more, bodyY, digitY⟩ := second.head
  rw [render_eq, render_eq] at same
  cases signX : x.isNegative <;> cases signY : y.isNegative <;>
    simp only [signX, signY, Bool.false_eq_true, if_true, if_false] at same
  · exact bits_eq (magnitudeBits_eq_of_body same) (signX.trans signY.symm)
  · rw [bodyX] at same
    rw [(List.cons.inj same).1] at digitX
    cases digitX
  · rw [bodyY] at same
    rw [← (List.cons.inj same).1] at digitY
    cases digitY
  · exact bits_eq (magnitudeBits_eq_of_body (List.cons.inj same).2) (signX.trans signY.symm)

end Binary64

end FluentQuery
