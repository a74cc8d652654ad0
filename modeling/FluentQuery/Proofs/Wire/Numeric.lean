import FluentQuery.Proofs.Wire.FixedPoint
import Mathlib.Data.Nat.Digits.Defs
import Mathlib.Tactic.NormNum

/-! What a number of arbitrary precision is worth, and that a whole one is read as it is. The groups
after the point are then zeros, which nothing rounds; so such a number is read just when 96 bits
hold it. Groups of 10000 and more, which no server sends, could be rounded on the way to a whole
number, and are left out. -/
namespace FluentQuery.Numeric

/-- The groups as one number. -/
def joined (digits : List Nat) : Nat :=
  Nat.ofDigits 10000 digits.reverse

/-- The groups as one number, with the first group at its weight. -/
def value (n : Numeric) : ℚ :=
  (if n.negative then -1 else 1) *
    (joined n.digits * 10000 ^ (n.weight + 1 - n.digits.length))

/-- The groups are as a server sends them, and zero has none before the point but the units. -/
structure Sent (n : Numeric) : Prop where
  groups : ∀ digit ∈ n.digits, digit < 10000
  zero : n.value = 0 → n.weight ≤ 0

/-! Groups -/

theorem joined_cons (digit : Nat) (digits : List Nat) :
    joined (digit :: digits) = digit * 10000 ^ digits.length + joined digits := by
  unfold joined
  rw [Nat.ofDigits_reverse_cons, Nat.add_comm, Nat.mul_comm]

theorem joined_append (digits more : List Nat) :
    joined (digits ++ more) = joined digits * 10000 ^ more.length + joined more := by
  unfold joined
  rw [List.reverse_append, Nat.ofDigits_append, List.length_reverse, Nat.add_comm, Nat.mul_comm]

theorem joined_lt {digits : List Nat} (groups : ∀ digit ∈ digits, digit < 10000) :
    joined digits < 10000 ^ digits.length := by
  rw [← List.length_reverse]
  refine Nat.ofDigits_lt_base_pow_length (by omega) fun digit member => ?_
  exact groups digit (List.mem_reverse.1 member)

theorem eq_zero_of_mul_pow {n count : Nat} (zero : n * 10000 ^ count = 0) : n = 0 :=
  (Nat.mul_eq_zero.1 zero).resolve_right (Nat.pow_pos (by omega)).ne'

theorem joined_eq_zero {digits : List Nat} (zero : joined digits = 0) :
    ∀ digit ∈ digits, digit = 0 := by
  induction digits with
  | nil => simp
  | cons first rest ih =>
    rw [joined_cons, Nat.add_eq_zero_iff] at zero
    simpa [eq_zero_of_mul_pow zero.1] using ih zero.2

/-- A number that ends in groups of zeros has these as its last groups. -/
theorem take_drop_of_joined {digits : List Nat} (groups : ∀ digit ∈ digits, digit < 10000)
    {point more v : Nat} (total : joined digits = v * 10000 ^ (more + (digits.length - point))) :
    joined (digits.take point) = v * 10000 ^ more ∧ ∀ digit ∈ digits.drop point, digit = 0 := by
  have last : joined (digits.drop point) < 10000 ^ (digits.length - point) := by
    rw [← List.length_drop]
    exact joined_lt fun digit member => groups digit (List.mem_of_mem_drop member)
  have parts := joined_append (digits.take point) (digits.drop point)
  rw [List.take_append_drop, List.length_drop, total, Nat.pow_add, ← Nat.mul_assoc] at parts
  have zero : joined (digits.drop point) = 0 := by
    rw [← Nat.mod_eq_of_lt last, ← Nat.mul_add_mod', ← parts, Nat.mul_mod_left]
  rw [zero, Nat.add_zero] at parts
  exact ⟨(Nat.eq_of_mul_eq_mul_right (Nat.pow_pos (by omega)) parts).symm, joined_eq_zero zero⟩

theorem bounded?_of_le {n : Nat} (fits : n ≤ FixedPoint.maxMantissa) : bounded? n = some n :=
  if_pos fits

theorem bounded?_of_lt {n : Nat} (large : FixedPoint.maxMantissa < n) : bounded? n = none :=
  if_neg (by omega)

/-- A bound on the whole number bounds what is read of it on the way. -/
theorem foldlM_bounded (digits : List Nat) {start : Nat} (fits : start ≤ FixedPoint.maxMantissa) :
    digits.foldlM (fun n digit => bounded? (n * 10000 + digit)) start =
      bounded? (start * 10000 ^ digits.length + joined digits) := by
  induction digits generalizing start with
  | nil =>
    have same : start * 10000 ^ 0 + joined [] = start := by
      rw [Nat.pow_zero, Nat.mul_one]
      rfl
    rw [List.length_nil, same, bounded?_of_le fits]
    rfl
  | cons digit rest ih =>
    have total : start * 10000 ^ (digit :: rest).length + joined (digit :: rest) =
        (start * 10000 + digit) * 10000 ^ rest.length + joined rest := by
      rw [joined_cons, List.length_cons]
      ring
    rw [total, List.foldlM_cons]
    by_cases small : start * 10000 + digit ≤ FixedPoint.maxMantissa
    · rw [bounded?_of_le small]
      exact ih small
    · have power := Nat.pow_pos (n := rest.length) (show 0 < 10000 by omega)
      have more := Nat.le_mul_of_pos_right (start * 10000 + digit) power
      rw [bounded?_of_lt (by omega), bounded?_of_lt (by omega)]
      rfl

theorem whole?_eq (digits : List Nat) (zeros : Nat) : whole? digits zeros =
    if FixedPoint.maxPlaces < 4 * zeros then none
    else bounded? (joined digits * 10000 ^ zeros) := by
  have tens : 10 ^ (4 * zeros) = 10000 ^ zeros := by
    rw [Nat.pow_mul]
  have start : 0 * 10000 ^ digits.length + joined digits = joined digits := by omega
  unfold whole?
  rw [foldlM_bounded digits (Nat.zero_le _), start, tens]
  by_cases fits : joined digits ≤ FixedPoint.maxMantissa
  · rw [bounded?_of_le fits]
    rfl
  · have power := Nat.pow_pos (n := zeros) (show 0 < 10000 by omega)
    have more := Nat.le_mul_of_pos_right (joined digits) power
    rw [bounded?_of_lt (by omega), bounded?_of_lt (n := joined digits * 10000 ^ zeros) (by omega),
      ite_self]
    rfl

/-- Zeros after the point change nothing. -/
theorem addFraction?_zeros {n : Nat} {x : FixedPoint} (whole : x.Whole n) {digits : List Nat}
    (zeros : ∀ digit ∈ digits, digit = 0) (place : Nat) :
    ∃ y, addFraction? x place digits = some y ∧ y.Whole n := by
  induction digits generalizing x place with
  | nil => exact ⟨x, rfl, whole⟩
  | cons digit rest ih =>
    obtain rfl : digit = 0 := zeros digit (by simp)
    obtain ⟨y, added, same⟩ := whole.addGroup?_zero place
    unfold addFraction?
    rw [added]
    exact ih same (fun digit member => zeros digit (by simp [member])) (place + 4)

/-- What is read of the groups before the point. -/
def wholePart? (n : Numeric) : Option Nat :=
  if (n.weight + 1).toNat = 0 then some 0
  else whole? (n.digits.take (n.weight + 1).toNat) ((n.weight + 1).toNat - n.digits.length)

theorem toFixedPoint?_eq (n : Numeric) : n.toFixedPoint? = n.wholePart?.bind fun whole =>
    (addFraction? ⟨whole, 0⟩ (4 * ((-n.weight - 1).toNat + 1))
      (n.digits.drop (n.weight + 1).toNat)).map (·.rescale n.scale) := by
  unfold toFixedPoint? wholePart?
  by_cases none : (n.weight + 1).toNat = 0
  · simp only [none, if_true, Option.bind_eq_bind, Option.bind_some, Option.map_eq_bind]
    rfl
  · simp only [none, if_false, Option.bind_eq_bind, Option.map_eq_bind]
    rfl

/-! Whole numbers -/

theorem tenThousand_zpow (power : Int) :
    (10000 : ℚ) ^ power * 10000 ^ (-power).toNat = 10000 ^ power.toNat := by
  have whole : power + (-power).toNat = power.toNat := by omega
  rw [← zpow_natCast, ← zpow_natCast, ← zpow_add₀ (by norm_num), whole]

section

variable {n : Numeric} {v : Int} (valued : n.value = v)
include valued

theorem size_sign : (joined n.digits : ℚ) * 10000 ^ (n.weight + 1 - n.digits.length) = v.natAbs ∧
    v = if n.negative then -(v.natAbs : Int) else v.natAbs := by
  refine (FixedPoint.sign_mul_eq_iff ?_).1 valued
  exact mul_nonneg (Nat.cast_nonneg _) (zpow_nonneg (by norm_num) _)

/-- The groups, without the powers of a fraction. -/
theorem joined_mul_pow : joined n.digits * 10000 ^ (n.weight + 1 - n.digits.length).toNat =
    v.natAbs * 10000 ^ (-(n.weight + 1 - n.digits.length)).toNat := by
  have scaled : (joined n.digits : ℚ) * 10000 ^ (n.weight + 1 - n.digits.length).toNat =
      v.natAbs * 10000 ^ (-(n.weight + 1 - n.digits.length)).toNat := by
    rw [← (size_sign valued).1, mul_assoc, tenThousand_zpow]
  exact_mod_cast scaled

/-- Before the point the groups are the number, and after it there are no more than zeros. -/
theorem take_drop (groups : ∀ digit ∈ n.digits, digit < 10000) :
    joined (n.digits.take (n.weight + 1).toNat) *
        10000 ^ ((n.weight + 1).toNat - n.digits.length) = v.natAbs ∧
      ∀ digit ∈ n.digits.drop (n.weight + 1).toNat, digit = 0 := by
  have same := joined_mul_pow valued
  have empty : joined [] = 0 := rfl
  by_cases short : n.digits.length ≤ (n.weight + 1).toNat
  · rw [List.take_of_length_le short, List.drop_of_length_le short]
    refine ⟨?_, by simp⟩
    by_cases point : 0 ≤ n.weight + 1
    · have up : (n.weight + 1 - n.digits.length).toNat =
        (n.weight + 1).toNat - n.digits.length := by omega
      have down : (-(n.weight + 1 - n.digits.length)).toNat = 0 := by omega
      rwa [up, down, Nat.pow_zero, Nat.mul_one] at same
    · have none : n.digits = [] := List.length_eq_zero_iff.1 (by omega)
      rw [none, empty, Nat.zero_mul] at same ⊢
      exact (eq_zero_of_mul_pow same.symm).symm
  · have up : (n.weight + 1 - n.digits.length).toNat = 0 := by omega
    obtain ⟨more, down⟩ : ∃ more, (-(n.weight + 1 - n.digits.length)).toNat =
        more + (n.digits.length - (n.weight + 1).toNat) :=
      ⟨_, (Nat.sub_add_cancel (by omega)).symm⟩
    rw [up, down, Nat.pow_zero, Nat.mul_one] at same
    obtain ⟨before, after⟩ := take_drop_of_joined groups same
    have zeros : (n.weight + 1).toNat - n.digits.length = 0 := by omega
    refine ⟨?_, after⟩
    rw [zeros, Nat.pow_zero, Nat.mul_one, before]
    by_cases aligned : more = 0
    · rw [aligned, Nat.pow_zero, Nat.mul_one]
    · -- There is a gap behind the point, and the number is below one.
      have none : (n.weight + 1).toNat = 0 := by omega
      rw [none, List.take_zero, empty] at before
      rw [eq_zero_of_mul_pow before.symm, Nat.zero_mul]

theorem wholePart?_eq (sent : n.Sent) : n.wholePart? = bounded? v.natAbs := by
  unfold wholePart?
  obtain ⟨total, -⟩ := take_drop valued sent.groups
  by_cases none : (n.weight + 1).toNat = 0
  · have empty : joined (n.digits.take 0) = 0 := rfl
    rw [none, empty, Nat.zero_mul] at total
    rw [if_pos none, ← total, bounded?_of_le (Nat.zero_le _)]
  · rw [if_neg none, whole?_eq, total]
    split
    · next many =>
      -- So many zeros follow no digit but zero, which has no groups before the point, unless the
      -- number is too large.
      by_cases zero : v = 0
      · have low := sent.zero (by rw [valued, zero, Int.cast_zero])
        unfold FixedPoint.maxPlaces at many
        omega
      · refine (bounded?_of_lt ?_).symm
        have filled : 0 < joined (n.digits.take (n.weight + 1).toNat) := by
          refine Nat.pos_of_ne_zero fun empty => zero ?_
          rw [empty, Nat.zero_mul] at total
          omega
        calc FixedPoint.maxMantissa < 10000 ^ 8 := by decide
          _ ≤ 10000 ^ ((n.weight + 1).toNat - n.digits.length) := by
            refine Nat.pow_le_pow_right (by omega) ?_
            unfold FixedPoint.maxPlaces at many
            omega
          _ ≤ v.natAbs := by
            rw [← total]
            exact Nat.le_mul_of_pos_left _ filled
    · rfl

/-- A whole number of 96 bits is read as it is. -/
theorem toSigned?_integral (sent : n.Sent) (fits : v.natAbs ≤ FixedPoint.maxMantissa) :
    ∃ x, n.toSigned? = some x ∧ x.Integral v := by
  obtain ⟨-, zeros⟩ := take_drop valued sent.groups
  have start := FixedPoint.whole_zero fits
  obtain ⟨x, read, whole⟩ :=
    addFraction?_zeros start zeros (4 * ((-n.weight - 1).toNat + 1))
  have fixed : n.toFixedPoint? = some (x.rescale n.scale) := by
    rw [toFixedPoint?_eq, wholePart?_eq valued sent, bounded?_of_le fits, Option.bind_some, read]
    rfl
  refine ⟨⟨n.negative, x.rescale n.scale⟩, ?_, whole.rescale n.scale, (size_sign valued).2⟩
  rw [toSigned?, fixed]
  rfl

/-- A greater one is not read at all. -/
theorem toSigned?_eq_none (sent : n.Sent) (large : FixedPoint.maxMantissa < v.natAbs) :
    n.toSigned? = none := by
  rw [toSigned?, toFixedPoint?_eq, wholePart?_eq valued sent, bounded?_of_lt large]
  rfl

end

end FluentQuery.Numeric
