import FluentQuery.Binary64.Shortest
import Mathlib.Algebra.Order.Field.Rat
import Mathlib.Tactic.Linarith
import Mathlib.Tactic.Positivity

/-! The reals that round to a double. In the order of their bits, the interval of each magnitude
ends where the next one starts, and only every other interval has its ends; so a real lies in one
interval at most. Nothing is said of the sign. -/
namespace FluentQuery.Binary64

/-- The magnitude that some bits without a sign denote. -/
def magnitudeOf (bits : Nat) : Magnitude :=
  if bits / 2 ^ 52 = 0 then ⟨bits % 2 ^ 52, 0⟩
  else ⟨bits % 2 ^ 52 + 2 ^ 52, bits / 2 ^ 52 - 1⟩

theorem magnitude_eq (x : Binary64) : x.magnitude = magnitudeOf x.magnitudeBits := rfl

theorem significand_lt (bits : Nat) : (magnitudeOf bits).significand < 2 ^ 53 := by
  unfold magnitudeOf
  split <;> simp only <;> omega

theorem significand_pos {bits : Nat} (some : bits ≠ 0) : 0 < (magnitudeOf bits).significand := by
  unfold magnitudeOf
  split <;> simp only <;> omega

theorem even_significand (bits : Nat) : (magnitudeOf bits).significand % 2 = bits % 2 := by
  unfold magnitudeOf
  split <;> simp only <;> omega

/-- How far the interval reaches down, in quarters of a unit. -/
def Magnitude.below (m : Magnitude) : Nat :=
  if m.significand = 2 ^ 52 ∧ m.scale ≠ 0 then 1 else 2

theorem interval_low (m : Magnitude) :
    m.interval.low = (4 * m.significand - m.below) * 2 ^ m.scale := rfl

theorem interval_high (m : Magnitude) :
    m.interval.high = (4 * m.significand + 2) * 2 ^ m.scale := rfl

theorem low_lt_high (m : Magnitude) : m.interval.low < m.interval.high := by
  rw [interval_low, interval_high]
  exact Nat.mul_lt_mul_of_pos_right (by omega) (Nat.two_pow_pos _)

theorem magnitudeOf_subnormal {fraction : Nat} (small : fraction < 2 ^ 52) :
    magnitudeOf fraction = ⟨fraction, 0⟩ := by
  rw [magnitudeOf, Nat.div_eq_of_lt small, if_pos rfl, Nat.mod_eq_of_lt small]

theorem magnitudeOf_normal (scale : Nat) {fraction : Nat} (small : fraction < 2 ^ 52) :
    magnitudeOf ((scale + 1) * 2 ^ 52 + fraction) = ⟨fraction + 2 ^ 52, scale⟩ := by
  have exponent : ((scale + 1) * 2 ^ 52 + fraction) / 2 ^ 52 = scale + 1 := by omega
  have rest : ((scale + 1) * 2 ^ 52 + fraction) % 2 ^ 52 = fraction := by omega
  rw [magnitudeOf, exponent, rest, if_neg (by omega), Nat.add_sub_cancel]

/-- The interval of a magnitude ends where that of the next one starts. -/
theorem high_eq_low_succ (bits : Nat) :
    (magnitudeOf bits).interval.high = (magnitudeOf (bits + 1)).interval.low := by
  obtain ⟨exponent, fraction, small, rfl⟩ : ∃ exponent fraction, fraction < 2 ^ 52 ∧
      bits = exponent * 2 ^ 52 + fraction :=
    ⟨bits / 2 ^ 52, bits % 2 ^ 52, Nat.mod_lt _ (by omega), by omega⟩
  rw [interval_high, interval_low]
  cases exponent with
  | zero =>
    rw [Nat.zero_mul, Nat.zero_add, magnitudeOf_subnormal small]
    by_cases last : fraction + 1 = 2 ^ 52
    · have next : fraction + 1 = (0 + 1) * 2 ^ 52 + 0 := by omega
      rw [next, magnitudeOf_normal 0 (by omega)]
      simp only [Magnitude.below, ne_eq, not_true_eq_false, and_false, if_false]
      omega
    · rw [magnitudeOf_subnormal (by omega)]
      simp only [Magnitude.below, ne_eq, not_true_eq_false, and_false, if_false]
      omega
  | succ scale =>
    rw [magnitudeOf_normal scale small]
    by_cases last : fraction + 1 = 2 ^ 52
    · have next : (scale + 1) * 2 ^ 52 + fraction + 1 = (scale + 1 + 1) * 2 ^ 52 + 0 := by omega
      have half : Magnitude.below ⟨0 + 2 ^ 52, scale + 1⟩ = 1 := by simp [Magnitude.below]
      obtain rfl : fraction = 2 ^ 52 - 1 := by omega
      have double : 2 ^ (scale + 1) = 2 * 2 ^ scale := Nat.pow_succ'
      rw [next, magnitudeOf_normal (scale + 1) (by omega), half]
      simp only [double]
      generalize 2 ^ scale = unit
      omega
    · have whole : Magnitude.below ⟨fraction + 1 + 2 ^ 52, scale⟩ = 2 := by
        simp [Magnitude.below]
      have same : 4 * (fraction + 2 ^ 52) + 2 = 4 * (fraction + 1 + 2 ^ 52) - 2 := by omega
      rw [Nat.add_assoc, magnitudeOf_normal scale (by omega), whole, same]

theorem high_le_low {bits other : Nat} (less : bits < other) :
    (magnitudeOf bits).interval.high ≤ (magnitudeOf other).interval.low := by
  induction other, less using Nat.le_induction with
  | base => exact (high_eq_low_succ bits).le
  | succ other _ ih =>
    rw [← high_eq_low_succ]
    exact ih.trans (low_lt_high _).le

/-- The end of one interval is the start of the next one only. -/
theorem eq_succ_of_high_eq_low {bits other : Nat} (less : bits < other)
    (same : (magnitudeOf bits).interval.high = (magnitudeOf other).interval.low) :
    other = bits + 1 := by
  by_contra apart
  have between : (magnitudeOf (bits + 1)).interval.high ≤ (magnitudeOf other).interval.low :=
    high_le_low (by omega)
  have filled := low_lt_high (magnitudeOf (bits + 1))
  rw [← high_eq_low_succ, same] at filled
  exact absurd between filled.not_ge

theorem interval_closed (bits : Nat) :
    (magnitudeOf bits).interval.closed = decide (bits % 2 = 0) := by
  rw [← even_significand]
  rfl

theorem holds_iff {i : Interval} {num den : Nat} :
    i.holds num den = true ↔ i.low * den ≤ num * 2 ^ 1076 ∧ num * 2 ^ 1076 ≤ i.high * den ∧
      (i.closed = false → i.low * den < num * 2 ^ 1076 ∧ num * 2 ^ 1076 < i.high * den) := by
  rw [Interval.holds]
  cases i.closed with
  | true =>
    rw [if_pos rfl, Bool.and_eq_true, decide_eq_true_eq, decide_eq_true_eq]
    refine ⟨fun inside => ⟨inside.1, inside.2, fun opened => ?_⟩,
      fun inside => ⟨inside.1, inside.2.1⟩⟩
    cases opened
  | false =>
    simp only [Bool.false_eq_true, if_false, Bool.and_eq_true, decide_eq_true_eq, forall_const]
    exact ⟨fun inside => ⟨inside.1.le, inside.2.le, inside⟩, fun inside => inside.2.2⟩

/-- The number lies in the interval. -/
def Interval.Contains (i : Interval) (v : ℚ) : Prop :=
  i.low ≤ v * 2 ^ 1076 ∧ v * 2 ^ 1076 ≤ i.high ∧
    (i.closed = false → i.low < v * 2 ^ 1076 ∧ v * 2 ^ 1076 < i.high)

theorem contains_of_holds {i : Interval} {num den : Nat} (some : 0 < den)
    (inside : i.holds num den = true) : i.Contains (num / den) := by
  have positive : (0 : ℚ) < den := by exact_mod_cast some
  have quotient : (num : ℚ) / den * 2 ^ 1076 = ((num * 2 ^ 1076 : Nat) : ℚ) / den := by
    rw [Nat.cast_mul, Nat.cast_pow, Nat.cast_ofNat, div_mul_eq_mul_div]
  obtain ⟨lower, upper, strict⟩ := holds_iff.1 inside
  rw [Interval.Contains, quotient, le_div_iff₀ positive, div_le_iff₀ positive, lt_div_iff₀ positive,
    div_lt_iff₀ positive]
  refine ⟨by exact_mod_cast lower, by exact_mod_cast upper, fun opened => ?_⟩
  obtain ⟨less, greater⟩ := strict opened
  exact ⟨by exact_mod_cast less, by exact_mod_cast greater⟩

/-- A number does not lie in the interval of some bits and in that of greater ones. -/
theorem not_contains_of_lt {bits other : Nat} (less : bits < other) {v : ℚ}
    (inside : (magnitudeOf bits).interval.Contains v) :
    ¬ (magnitudeOf other).interval.Contains v := by
  intro again
  obtain ⟨-, upper, strict⟩ := inside
  obtain ⟨lower, -, strictly⟩ := again
  have ordered := high_le_low less
  have same : (magnitudeOf bits).interval.high = (magnitudeOf other).interval.low :=
    Nat.le_antisymm ordered (by exact_mod_cast lower.trans upper)
  have next := eq_succ_of_high_eq_low less same
  rw [← same] at lower strictly
  by_cases even : bits % 2 = 0
  · have opened : (magnitudeOf other).interval.closed = false := by
      rw [interval_closed, decide_eq_false_iff_not]
      omega
    exact absurd upper (strictly opened).1.not_ge
  · have opened : (magnitudeOf bits).interval.closed = false := by
      rw [interval_closed, decide_eq_false_iff_not]
      exact even
    exact absurd lower (strict opened).2.not_ge

/-- A number lies in the interval of one magnitude at most. -/
theorem eq_of_contains {bits other : Nat} {v : ℚ}
    (inside : (magnitudeOf bits).interval.Contains v)
    (again : (magnitudeOf other).interval.Contains v) : bits = other := by
  rcases Nat.lt_trichotomy bits other with less | same | greater
  · exact absurd again (not_contains_of_lt less inside)
  · exact same
  · exact absurd inside (not_contains_of_lt greater again)

end FluentQuery.Binary64
