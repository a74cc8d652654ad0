import FluentQuery.Proofs.Binary64.Nearest
import FluentQuery.Wire.Numeric

/-! Whole numbers with decimal places. However many places a whole number is written with, adding
zeros, padding and rounding to fewer places leave it as it is. As JSON it is the integer where 64
bits hold it, and beyond them the nearest double; its digits are never a string, for the double of a
number of 96 bits is finite. -/
namespace FluentQuery.FixedPoint

/-- The number is the whole number `n`, whatever its places. -/
structure Whole (n : Nat) (x : FixedPoint) : Prop where
  mantissa : x.mantissa = n * 10 ^ x.places
  fits : x.mantissa ≤ maxMantissa

theorem whole_iff {n : Nat} {x : FixedPoint} :
    Whole n x ↔ (x.mantissa / 10 ^ x.places : ℚ) = n ∧ x.mantissa ≤ maxMantissa := by
  have unit : (10 : ℚ) ^ x.places ≠ 0 := by positivity
  rw [div_eq_iff unit]
  constructor
  · rintro ⟨mantissa, fits⟩
    exact ⟨by exact_mod_cast mantissa, fits⟩
  · rintro ⟨mantissa, fits⟩
    exact ⟨by exact_mod_cast mantissa, fits⟩

theorem whole_zero {n : Nat} (fits : n ≤ maxMantissa) : Whole n ⟨n, 0⟩ :=
  ⟨(Nat.mul_one n).symm, fits⟩

namespace Whole

variable {n : Nat} {x : FixedPoint} (whole : Whole n x)
include whole

theorem le_maxMantissa : n ≤ maxMantissa :=
  calc n ≤ n * 10 ^ x.places := Nat.le_mul_of_pos_right n (Nat.pow_pos (by omega))
    _ = x.mantissa := whole.mantissa.symm
    _ ≤ maxMantissa := whole.fits

end Whole

/-- Places are dropped from a whole number without rounding, and dropping all of them is enough. -/
theorem fit?_whole {n places : Nat} (fits : n ≤ maxMantissa) :
    ∃ y, fit? ⟨n * 10 ^ places, places⟩ = some y ∧ Whole n y := by
  have rounded : ∀ dropped ≤ places,
      Binary64.roundHalfEven (n * 10 ^ places) (10 ^ dropped) = n * 10 ^ (places - dropped) := by
    intro dropped few
    have split : n * 10 ^ places = n * 10 ^ (places - dropped) * 10 ^ dropped := by
      rw [Nat.mul_assoc, ← Nat.pow_add, Nat.sub_add_cancel few]
    rw [split, Binary64.roundHalfEven_of_dvd (Nat.pow_pos (by omega))]
  have found : ((List.range (places + 1)).find? fun dropped =>
      Binary64.roundHalfEven (n * 10 ^ places) (10 ^ dropped) ≤ maxMantissa).isSome := by
    rw [List.find?_isSome]
    refine ⟨places, by simp, ?_⟩
    rw [rounded places le_rfl, Nat.sub_self, Nat.pow_zero, Nat.mul_one, decide_eq_true_eq]
    exact fits
  obtain ⟨dropped, first⟩ := Option.isSome_iff_exists.1 found
  have few : dropped ≤ places := by
    have := List.mem_range.1 (List.mem_of_find?_eq_some first)
    omega
  have small := List.find?_some first
  rw [decide_eq_true_eq] at small
  refine ⟨_, congrArg (Option.map _) first, ?_, small⟩
  exact rounded dropped few

namespace Whole

variable {n : Nat} {x : FixedPoint} (whole : Whole n x)
include whole

theorem add?_zero (places : Nat) : ∃ y, x.add? ⟨0, places⟩ = some y ∧ Whole n y := by
  have scaled : x.mantissa * 10 ^ (max x.places places - x.places) +
      0 * 10 ^ (max x.places places - places) = n * 10 ^ max x.places places := by
    rw [Nat.zero_mul, Nat.add_zero, whole.mantissa, Nat.mul_assoc, ← Nat.pow_add,
      Nat.add_sub_cancel' (Nat.le_max_left _ _)]
  unfold add?
  simp only [scaled]
  exact fit?_whole whole.le_maxMantissa

theorem addGroup?_zero (place : Nat) : ∃ y, x.addGroup? place 0 = some y ∧ Whole n y := by
  unfold addGroup?
  split
  · exact whole.add?_zero place
  · rw [if_neg (by omega)]
    exact ⟨x, rfl, whole⟩

theorem pad (count : Nat) : Whole n (x.pad count) := by
  induction count generalizing x with
  | zero => exact whole
  | succ count ih =>
    unfold FixedPoint.pad
    split
    · next room =>
      refine ih ⟨?_, room.1⟩
      rw [whole.mantissa, Nat.mul_assoc, ← Nat.pow_succ]
    · exact whole

/-- A half of the last place is too little to round a whole number up. -/
theorem rescale (places : Nat) : Whole n (x.rescale places) := by
  unfold FixedPoint.rescale
  split
  · next fewer =>
    have split : x.mantissa = n * 10 ^ places * 10 ^ (x.places - places) := by
      rw [whole.mantissa, Nat.mul_assoc, ← Nat.pow_add, Nat.add_sub_cancel' (Nat.le_of_lt fewer)]
    have tens : 10 ^ (x.places - places) = 10 * 10 ^ (x.places - places - 1) := by
      rw [← Nat.pow_succ']
      congr 1
      omega
    have half : 5 * 10 ^ (x.places - places - 1) < 10 ^ (x.places - places) := by
      have := Nat.pow_pos (n := x.places - places - 1) (show 0 < 10 by omega)
      omega
    have kept : (x.mantissa + 5 * 10 ^ (x.places - places - 1)) / 10 ^ (x.places - places) =
        n * 10 ^ places := by
      rw [split, Nat.add_comm, Nat.add_mul_div_right _ _ (Nat.pow_pos (by omega)),
        Nat.div_eq_of_lt half, Nat.zero_add]
    have less : n * 10 ^ places ≤ x.mantissa := by
      rw [split]
      exact Nat.le_mul_of_pos_right _ (Nat.pow_pos (by omega))
    exact ⟨kept, kept.trans_le (less.trans whole.fits)⟩
  · exact whole.pad _

/-! JSON -/

theorem div_unit : x.mantissa / 10 ^ x.places = n := by
  rw [whole.mantissa, Nat.mul_div_cancel _ (Nat.pow_pos (by omega))]

theorem mod_unit : x.mantissa % 10 ^ x.places = 0 := by
  rw [whole.mantissa, Nat.mul_mod_left]

/-- A whole number has no fraction to be rounded apart. -/
theorem toBinary64_eq : x.toBinary64 = Binary64.ofNat n := by
  have none : ((Binary64.ofNat 0).div (.ofNat (10 ^ x.places))).isZero = true := by
    have zero : (Binary64.ofNat 0).ratio.1 = 0 := by decide +kernel
    unfold Binary64.div
    rw [zero, Nat.zero_mul]
    rfl
  unfold toBinary64
  simp only [whole.div_unit, whole.mod_unit, none, if_true]

end Whole

/-- The integers of 64 bits. -/
def WithinInt64 (v : Int) : Prop :=
  -2 ^ 63 ≤ v ∧ v < 2 ^ 63

instance (v : Int) : Decidable (WithinInt64 v) :=
  inferInstanceAs (Decidable (_ ∧ _))

theorem log2_of_beyond {v : Int} (beyond : ¬WithinInt64 v) (fits : v.natAbs ≤ maxMantissa) :
    63 ≤ v.natAbs.log2 ∧ v.natAbs.log2 < 96 := by
  unfold WithinInt64 at beyond
  unfold maxMantissa at fits
  have large : 2 ^ 63 ≤ v.natAbs := by omega
  have filled : v.natAbs ≠ 0 := by omega
  rw [Nat.le_log2 filled, Nat.log2_lt filled]
  exact ⟨large, by omega⟩

/-- What an integer is as JSON: itself within 64 bits, and beyond them a finite double of its sign
that has it in its interval. -/
inductive Shown (v : Int) : Json → Prop where
  | int : WithinInt64 v → Shown v (.int v)
  | float {y : Binary64} : ¬WithinInt64 v → y.isFinite = true → y.isNegative = decide (v < 0) →
      y.magnitude.interval.Contains v.natAbs → Shown v (.float y)

/-- Two integers that one value stands for: equal ones, and beyond 64 bits those of one sign that
lie in the interval of one double. -/
def Alike (v w : Int) : Prop :=
  v = w ∨ (¬WithinInt64 v ∧ ¬WithinInt64 w ∧ (v < 0 ↔ w < 0) ∧ ∃ y : Binary64,
    y.magnitude.interval.Contains v.natAbs ∧ y.magnitude.interval.Contains w.natAbs)

theorem Shown.eq_iff {v w : Int} {j k : Json} (first : Shown v j) (second : Shown w k) :
    j = k ↔ Alike v w := by
  cases first with
  | int inside =>
    cases second with
    | int again => simp [Alike, inside]
    | float beyond =>
      have apart : v ≠ w := fun same => beyond (same ▸ inside)
      simp [Alike, inside, apart]
  | @float x beyond finite sign contains =>
    cases second with
    | int inside =>
      have apart : v ≠ w := fun same => beyond (same ▸ inside)
      simp [Alike, inside, apart]
    | @float y further finite' sign' contains' =>
      constructor
      · intro same
        cases same
        have signs : decide (v < 0) = decide (w < 0) := sign.symm.trans sign'
        exact .inr ⟨beyond, further, decide_eq_decide.1 signs, x, contains, contains'⟩
      · intro alike
        obtain ⟨signs, u, inside, inside'⟩ : (v < 0 ↔ w < 0) ∧ ∃ u : Binary64,
            u.magnitude.interval.Contains v.natAbs ∧ u.magnitude.interval.Contains w.natAbs := by
          rcases alike with rfl | ⟨-, -, shared⟩
          · exact ⟨Iff.rfl, x, contains, contains⟩
          · exact shared
        rw [Binary64.magnitude_eq] at inside inside' contains contains'
        have size : x.magnitudeBits = y.magnitudeBits :=
          (Binary64.eq_of_contains contains inside).trans
            (Binary64.eq_of_contains inside' contains')
        rw [Binary64.ext_of_magnitudeBits size (by rw [sign, sign', decide_eq_decide.2 signs])]

/-- A size with a sign is an integer just when both are those of the integer. -/
theorem sign_mul_eq_iff {negative : Bool} {size : ℚ} {v : Int} (nonneg : 0 ≤ size) :
    (if negative then -1 else 1) * size = v ↔
      size = v.natAbs ∧ v = if negative then -(v.natAbs : Int) else v.natAbs := by
  have signed : v = (if negative then -(v.natAbs : Int) else v.natAbs) ↔
      (v : ℚ) = (if negative then -1 else 1) * v.natAbs := by
    rw [← Int.cast_inj (α := ℚ)]
    split <;> simp
  constructor
  · intro valued
    have absolute : size = v.natAbs := by
      rw [← Int.cast_natCast, Int.natCast_natAbs, Int.cast_abs, ← valued, abs_mul,
        abs_of_nonneg nonneg]
      split <;> simp
    exact ⟨absolute, signed.2 (by rw [← absolute, valued])⟩
  · rintro ⟨rfl, sign⟩
    exact (signed.1 sign).symm

namespace Signed

/-- The number that is held. -/
def value (x : Signed) : ℚ :=
  (if x.negative then -1 else 1) * (x.magnitude.mantissa / 10 ^ x.magnitude.places)

/-- The number is the integer `v`, whatever its places. -/
structure Integral (v : Int) (x : Signed) : Prop where
  whole : Whole v.natAbs x.magnitude
  sign : v = if x.negative then -(v.natAbs : Int) else v.natAbs

theorem Integral.negative_eq {v : Int} {x : Signed} (integral : Integral v x) (filled : v ≠ 0) :
    x.negative = decide (v < 0) := by
  have sign := integral.sign
  symm
  cases negative : x.negative with
  | false =>
    rw [negative, if_neg Bool.false_ne_true] at sign
    rw [decide_eq_false_iff_not]
    omega
  | true =>
    rw [negative, if_pos rfl] at sign
    rw [decide_eq_true_eq]
    omega

theorem integral_iff {v : Int} {x : Signed} :
    Integral v x ↔ x.value = v ∧ x.magnitude.mantissa ≤ maxMantissa := by
  have size : (0 : ℚ) ≤ x.magnitude.mantissa / 10 ^ x.magnitude.places := by positivity
  rw [value, sign_mul_eq_iff size]
  constructor
  · rintro ⟨whole, sign⟩
    obtain ⟨valued, fits⟩ := whole_iff.1 whole
    exact ⟨⟨valued, sign⟩, fits⟩
  · rintro ⟨⟨valued, sign⟩, fits⟩
    exact ⟨whole_iff.2 ⟨valued, fits⟩, sign⟩

/-- The double that stands for an integer beyond 64 bits is finite, so its text is never used. -/
theorem Integral.toJson {v : Int} {x : Signed} (integral : Integral v x) : Shown v x.toJson := by
  have whole := integral.whole
  unfold Signed.toJson
  simp only [whole.div_unit, whole.mod_unit, whole.toBinary64_eq, ← integral.sign, true_and]
  by_cases inside : WithinInt64 v
  · have ends : -2 ^ 63 ≤ v ∧ v < 2 ^ 63 := inside
    rw [if_pos ends]
    exact .int inside
  · have ends : ¬(-2 ^ 63 ≤ v ∧ v < 2 ^ 63) := inside
    obtain ⟨large, bounded⟩ := log2_of_beyond inside whole.le_maxMantissa
    have finite := Binary64.isFinite_ofNat (by omega) (Nat.le_of_lt (bounded.trans (by omega)))
    have positive := Binary64.isNegative_ofNat (n := v.natAbs) (by omega) (by omega)
    have contains := Binary64.contains_ofNat (n := v.natAbs) (by omega) (by omega)
    rw [if_neg ends, integral.negative_eq (by omega)]
    generalize Binary64.ofNat v.natAbs = size at finite positive contains
    have same : size.neg.magnitudeBits = size.magnitudeBits := Binary64.magnitudeBits_neg size
    by_cases below : v < 0
    · have finite' : size.neg.isFinite = true := by
        rwa [Binary64.isFinite, same]
      simp only [below, decide_true, if_true, finite']
      refine .float inside finite' ?_ ?_
      · rw [Binary64.isNegative_neg, positive, decide_eq_true below, Bool.not_false]
      · rwa [Binary64.magnitude_eq, same]
    · simp only [below, decide_false, Bool.false_eq_true, if_false, finite, if_true]
      exact .float inside finite (by rw [positive, decide_eq_false below]) contains

end Signed

end FluentQuery.FixedPoint
