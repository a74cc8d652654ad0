import FluentQuery.Proofs.Binary64.Interval
import Mathlib.Tactic.Ring

/-! The digits that are chosen for a double read back as the double. Every grid that gives a point
gives one in the interval of the value, and at the latest the grid of 17 digits gives one: half its
step is less than the way from the value to either end of the interval. -/
namespace FluentQuery.Binary64

/-! Leading digits -/

theorem pow_digitCount_le {n : Nat} (some : 0 < n) : 10 ^ (digitCount n - 1) ≤ n := by
  by_cases one : digitCount n = 1
  · rw [one]
    exact some
  · have more : 0 < digitCount n := Nat.length_toDigits_pos
    refine Nat.not_lt.1 fun less => ?_
    have := (Nat.length_toDigits_le_iff (by omega) (by omega)).2 less
    unfold digitCount at one more this
    omega

theorem lt_pow_digitCount (n : Nat) : n < 10 ^ digitCount n :=
  (Nat.length_toDigits_le_iff (by omega) Nat.length_toDigits_pos).1 le_rfl

/-- The quotient is at least the power, which may be negative. -/
def Reaches (num den : Nat) (power : Int) : Prop :=
  den * 10 ^ power.toNat ≤ num * 10 ^ (-power).toNat

theorem reaches_of_pow {num den a b : Nat} (upper : den ≤ 10 ^ a) (lower : 10 ^ b ≤ num) :
    Reaches num den (b - a) := by
  have up : ((b : Int) - a).toNat = b - a := by omega
  have down : (-((b : Int) - a)).toNat = a - b := by omega
  rw [Reaches, up, down]
  calc den * 10 ^ (b - a) ≤ 10 ^ a * 10 ^ (b - a) := Nat.mul_le_mul_right _ upper
    _ = 10 ^ b * 10 ^ (a - b) := by
      rw [← Nat.pow_add, ← Nat.pow_add]
      congr 1
      omega
    _ ≤ num * 10 ^ (a - b) := Nat.mul_le_mul_right _ lower

theorem reaches_iff (num den : Nat) (power : Int) : Reaches num den power ↔
    (if power < 0 then decide (den ≤ num * 10 ^ power.natAbs)
      else decide (den * 10 ^ power.natAbs ≤ num)) = true := by
  unfold Reaches
  split
  · next negative =>
    have up : power.toNat = 0 := by omega
    have down : (-power).toNat = power.natAbs := by omega
    rw [up, down, Nat.pow_zero, Nat.mul_one, decide_eq_true_eq]
  · have up : power.toNat = power.natAbs := by omega
    have down : (-power).toNat = 0 := by omega
    rw [up, down, Nat.pow_zero, Nat.mul_one, decide_eq_true_eq]

/-- The leading power is no greater than the quotient. -/
theorem reaches_leadingPower {num : Nat} (some : 0 < num) (den : Nat) :
    Reaches num den (leadingPower num den) := by
  unfold leadingPower
  extract_lets guess reaches
  split
  · next met => exact (reaches_iff num den guess).2 met
  · have counted : guess - 1 =
        ((digitCount num - 1 : Nat) : Int) - digitCount den := by
      have : 0 < digitCount num := Nat.length_toDigits_pos
      omega
    rw [counted]
    exact reaches_of_pow (lt_pow_digitCount den).le (pow_digitCount_le some)

/-- The step of a grid of 17 digits is that far below the quotient. -/
theorem step_le {num den : Nat} {power : Int} (reaches : Reaches num den power) :
    10 ^ 16 * (den * 10 ^ (power + 1 - 17).toNat) ≤ num * 10 ^ (-(power + 1 - 17)).toNat := by
  unfold Reaches at reaches
  have ups : (power + 1 - 17).toNat + 16 = power.toNat + (16 - power.toNat) := by omega
  have downs : (-(power + 1 - 17)).toNat = (-power).toNat + (16 - power.toNat) := by omega
  calc 10 ^ 16 * (den * 10 ^ (power + 1 - 17).toNat)
      = den * 10 ^ ((power + 1 - 17).toNat + 16) := by rw [Nat.pow_add]; ring
    _ = den * 10 ^ power.toNat * 10 ^ (16 - power.toNat) := by rw [ups, Nat.pow_add]; ring
    _ ≤ num * 10 ^ (-power).toNat * 10 ^ (16 - power.toNat) := Nat.mul_le_mul_right _ reaches
    _ = num * 10 ^ (-(power + 1 - 17)).toNat := by rw [downs, Nat.pow_add]; ring

/-! Points of a grid -/

theorem below_pos (m : Magnitude) : 0 < m.below ∧ m.below ≤ 2 := by
  unfold Magnitude.below
  split <;> omega

/-- A step of 17 digits is less than twice the way to the nearer end of the interval. -/
theorem step_lt {m : Magnitude} (small : m.significand < 2 ^ 53) {step unit : Nat} (some : 0 < step)
    (fine : 10 ^ 16 * step ≤ m.significand * unit) : 2 * step < m.below * unit := by
  have bound : m.significand * unit ≤ 2 ^ 53 * unit := Nat.mul_le_mul_right _ small.le
  unfold Magnitude.below
  split
  · next power =>
    rw [power.1] at fine
    omega
  · omega

/-- One of the two points around a value is inside, if the step is small. -/
theorem inside_of_step {significand unit step below : Nat} (positive : 0 < significand)
    (some : 0 < step) (narrow : below ≤ 2) (fine : 2 * step < below * unit) :
    let low := significand * unit / step
    ((4 * significand - below) * unit < 4 * (low * step) ∧
        4 * (low * step) < (4 * significand + 2) * unit) ∨
      ((4 * significand - below) * unit < 4 * ((low + 1) * step) ∧
        4 * ((low + 1) * step) < (4 * significand + 2) * unit) := by
  intro low
  have whole : step * low + significand * unit % step = significand * unit := Nat.div_add_mod _ _
  have rest := Nat.mod_lt (significand * unit) some
  have lower : (4 * significand - below) * unit = 4 * (significand * unit) - below * unit := by
    rw [Nat.sub_mul, Nat.mul_assoc]
  have upper : (4 * significand + 2) * unit = 4 * (significand * unit) + 2 * unit := by
    rw [Nat.add_mul, Nat.mul_assoc]
  have next : (low + 1) * step = step * low + step := by ring
  have reach : below * unit ≤ 2 * unit := Nat.mul_le_mul_right _ narrow
  have filled : unit ≤ significand * unit := Nat.le_mul_of_pos_left unit positive
  rw [lower, upper, next, Nat.mul_comm low step]
  generalize significand * unit % step = excess at *
  generalize significand * unit = value at *
  generalize step * low = floor at *
  generalize below * unit = down at *
  omega

theorem holds_of_inside {m : Magnitude} {digits up down : Nat}
    (inside : (4 * m.significand - m.below) * (2 ^ m.scale * down) <
        4 * (digits * (2 ^ 1074 * up)) ∧
      4 * (digits * (2 ^ 1074 * up)) < (4 * m.significand + 2) * (2 ^ m.scale * down)) :
    m.interval.holds (digits * up) down = true := by
  have scaled : digits * up * 2 ^ 1076 = 4 * (digits * (2 ^ 1074 * up)) := by
    have quarter : 2 ^ 1076 = 4 * 2 ^ 1074 := by decide +kernel
    rw [quarter]
    ring
  rw [holds_iff, interval_low, interval_high, scaled, Nat.mul_assoc, Nat.mul_assoc]
  exact ⟨inside.1.le, inside.2.le, fun _ => inside⟩

theorem roundHalfEven_eq (num den : Nat) :
    roundHalfEven num den = num / den ∨ roundHalfEven num den = num / den + 1 := by
  unfold roundHalfEven
  extract_lets low twice
  split
  · exact .inl rfl
  · exact .inr rfl

/-- A point of a grid reads back as the value. -/
theorem holds_of_onGrid {m : Magnitude} {count : Nat} {d : Decimal}
    (chosen : onGrid? m count = some d) :
    m.interval.holds (d.digits * 10 ^ d.power.toNat) (10 ^ (-d.power).toNat) = true := by
  unfold onGrid? at chosen
  extract_lets num den power up down low reads at chosen
  split at chosen
  · cases chosen
  · next read _ =>
    cases chosen
    exact read
  · next _ read =>
    cases chosen
    exact read
  · next read more =>
    cases chosen
    rcases roundHalfEven_eq (num * down) (den * up) with low | high
    · rw [low]
      exact read
    · rw [high]
      exact more

/-- There is a point on the grid of 17 digits. -/
theorem exists_onGrid {m : Magnitude} (positive : 0 < m.significand)
    (small : m.significand < 2 ^ 53) : ∃ d, onGrid? m 17 = some d := by
  unfold onGrid?
  extract_lets num den power up down low reads
  have someNum : 0 < num := Nat.mul_pos positive (Nat.two_pow_pos _)
  have fine : 10 ^ 16 * (den * up) ≤ m.significand * (2 ^ m.scale * down) := by
    rw [← Nat.mul_assoc m.significand]
    exact step_le (reaches_leadingPower someNum den)
  have someStep : 0 < den * up := Nat.mul_pos (Nat.two_pow_pos _) (Nat.pow_pos (by omega))
  have points := inside_of_step positive someStep (below_pos m).2 (step_lt small someStep fine)
  have floor : m.significand * (2 ^ m.scale * down) / (den * up) = low := by
    rw [← Nat.mul_assoc]
  rw [floor] at points
  have read : reads low = true ∨ reads (low + 1) = true :=
    points.imp holds_of_inside holds_of_inside
  rcases read with read | read
  · rw [read]
    cases reads (low + 1) <;> exact ⟨_, rfl⟩
  · rw [read]
    cases reads low <;> exact ⟨_, rfl⟩

/-- The shortest decimal of a value lies in its interval. -/
theorem holds_shortest {m : Magnitude} (positive : 0 < m.significand)
    (small : m.significand < 2 ^ 53) :
    m.interval.holds (m.shortest.digits * 10 ^ m.shortest.power.toNat)
      (10 ^ (-m.shortest.power).toNat) = true := by
  obtain ⟨d, last⟩ := exists_onGrid positive small
  have found : ((List.range 17).findSome? fun n => onGrid? m (n + 1)).isSome := by
    rw [List.findSome?_isSome_iff]
    exact ⟨16, by simp, by rw [last]; rfl⟩
  obtain ⟨chosen, first⟩ := Option.isSome_iff_exists.1 found
  obtain ⟨n, -, grid⟩ := List.exists_of_findSome?_eq_some first
  rw [Magnitude.shortest, first]
  exact holds_of_onGrid grid

theorem ten_zpow (power : Int) : (10 : ℚ) ^ power.toNat / 10 ^ (-power).toNat = 10 ^ power := by
  have ten : (10 : ℚ) ≠ 0 := by norm_num
  have whole : power = power.toNat - (-power).toNat := by omega
  conv_rhs => rw [whole, zpow_sub₀ ten, zpow_natCast, zpow_natCast]

theorem contains_shortest {m : Magnitude} (positive : 0 < m.significand)
    (small : m.significand < 2 ^ 53) :
    m.interval.Contains (m.shortest.digits * 10 ^ m.shortest.power) := by
  have inside := contains_of_holds (Nat.pow_pos (by omega)) (holds_shortest positive small)
  rwa [Nat.cast_mul, Nat.cast_pow, Nat.cast_pow, Nat.cast_ofNat, mul_div_assoc, ten_zpow] at inside

/-- The end of the interval below a positive magnitude is not zero. -/
theorem low_pos {m : Magnitude} (positive : 0 < m.significand) : 0 < m.interval.low := by
  rw [interval_low]
  have := (below_pos m).2
  exact Nat.mul_pos (by omega) (Nat.two_pow_pos _)

/-- The digits of a positive value are not all zero. -/
theorem shortest_digits_ne_zero {m : Magnitude} (positive : 0 < m.significand)
    (small : m.significand < 2 ^ 53) : m.shortest.digits ≠ 0 := by
  intro none
  obtain ⟨lower, -⟩ := contains_shortest positive small
  rw [none, Nat.cast_zero, zero_mul, zero_mul] at lower
  have := low_pos positive
  exact absurd lower (by exact_mod_cast this.not_ge)

end FluentQuery.Binary64
