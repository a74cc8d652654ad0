import FluentQuery.Proofs.Binary64.Shortest

/-! Large natural numbers as doubles. `ofNat` gives the double in whose interval a number lies, and
only one has it in there: so two numbers have one double just when one interval holds both. Below
`2 ^ 52` every number is a double, and nothing is said of these here. -/
namespace FluentQuery.Binary64

/-- The quotient is rounded to a nearest integer, and to an even one if two are as near. -/
theorem roundHalfEven_near (num : Nat) {den : Nat} (positive : 0 < den) :
    2 * (roundHalfEven num den * den) ≤ 2 * num + den ∧
      2 * num ≤ 2 * (roundHalfEven num den * den) + den ∧
      (roundHalfEven num den % 2 = 1 →
        2 * (roundHalfEven num den * den) < 2 * num + den ∧
          2 * num < 2 * (roundHalfEven num den * den) + den) := by
  have whole : den * (num / den) + num % den = num := Nat.div_add_mod num den
  have rest := Nat.mod_lt num positive
  unfold roundHalfEven
  extract_lets low twice
  have below : low * den = den * (num / den) := Nat.mul_comm _ _
  have above : (low + 1) * den = low * den + den := Nat.succ_mul low den
  split
  · next down => omega
  · next up => omega

theorem roundHalfEven_of_dvd {num den : Nat} (positive : 0 < den) :
    roundHalfEven (num * den) den = num := by
  have exact_ : num * den % den = 0 := Nat.mul_mod_left num den
  have quotient : num * den / den = num := Nat.mul_div_cancel num positive
  unfold roundHalfEven
  simp only [exact_, quotient]
  rw [if_pos (.inl (by omega))]

theorem roundHalfEven_mul_right (num den : Nat) {factor : Nat} (positive : 0 < factor) :
    roundHalfEven (num * factor) (den * factor) = roundHalfEven num den := by
  have twice : 2 * (num % den * factor) = 2 * (num % den) * factor := (Nat.mul_assoc ..).symm
  unfold roundHalfEven
  simp only [Nat.mul_div_mul_right _ _ positive, Nat.mul_mod_mul_right, twice,
    Nat.mul_lt_mul_right positive, Nat.mul_left_inj (Nat.ne_of_gt positive)]

/-! Bits -/

theorem magnitudeBits_ofBits (negative : Bool) {bits : Nat} (small : bits < 2 ^ 63) :
    (ofBits negative bits).magnitudeBits = bits := by
  unfold ofBits magnitudeBits
  rw [UInt64.toNat_ofNat']
  cases negative <;> simp only [Bool.false_eq_true, if_true, if_false] <;> omega

theorem isNegative_ofBits (negative : Bool) {bits : Nat} (small : bits < 2 ^ 63) :
    (ofBits negative bits).isNegative = negative := by
  unfold ofBits isNegative
  rw [UInt64.toNat_ofNat']
  cases negative <;> simp only [Bool.false_eq_true, if_true, if_false, decide_eq_true_eq,
    decide_eq_false_iff_not] <;> omega

theorem magnitudeBits_lt (x : Binary64) : x.magnitudeBits < 2 ^ 63 :=
  Nat.mod_lt _ (by omega)

/-- The bits of a double are its magnitude and its sign. -/
theorem ext_of_magnitudeBits {x y : Binary64} (size : x.magnitudeBits = y.magnitudeBits)
    (sign : x.isNegative = y.isNegative) : x = y := by
  have sides : 2 ^ 63 ≤ x.bits.toNat ↔ 2 ^ 63 ≤ y.bits.toNat := by
    simpa only [isNegative, decide_eq_decide] using sign
  unfold magnitudeBits at size
  have bits : x.bits.toNat = y.bits.toNat := by
    have := x.bits.toNat_lt
    have := y.bits.toNat_lt
    omega
  cases x
  cases y
  exact congrArg mk (UInt64.toNat_inj.1 bits)

@[simp] theorem magnitudeBits_neg (x : Binary64) : x.neg.magnitudeBits = x.magnitudeBits :=
  magnitudeBits_ofBits _ x.magnitudeBits_lt

@[simp] theorem isNegative_neg (x : Binary64) : x.neg.isNegative = !x.isNegative :=
  isNegative_ofBits _ x.magnitudeBits_lt

/-! Rounding -/

section

variable {n : Nat} (large : 52 ≤ n.log2)

/-- How far apart the doubles are around a number. -/
def step (n : Nat) : Nat :=
  2 ^ (n.log2 - 52)

theorem step_pos (n : Nat) : 0 < step n :=
  Nat.two_pow_pos _

include large

/-- A number has 53 bits, counted in steps. -/
theorem steps_near : 2 ^ 52 * step n ≤ n ∧ n < 2 ^ 53 * step n := by
  have filled : n ≠ 0 := by
    rintro rfl
    exact absurd large (by decide)
  have low := Nat.log2_self_le filled
  have high := Nat.lt_log2_self (n := n)
  unfold step
  rw [← Nat.pow_add, ← Nat.pow_add]
  have first : 52 + (n.log2 - 52) = n.log2 := by omega
  have last : 53 + (n.log2 - 52) = n.log2 + 1 := by omega
  rw [first, last]
  exact ⟨low, high⟩

/-- The units of the smallest doubles, and those at the scale of the number. -/
theorem units_eq : 2 ^ (n.log2 + 1022) = step n * 2 ^ 1074 := by
  have scale : n.log2 + 1022 = n.log2 - 52 + 1074 := by omega
  rw [scale, Nat.pow_add, step]

theorem scaleOf_one : scaleOf n 1 = n.log2 + 1022 := by
  have guess : n.log2 + 1075 - Nat.log2 1 - 53 = n.log2 + 1022 := by
    have one : Nat.log2 1 = 0 := by decide
    omega
  have enough : ¬n * 2 ^ 1074 < 2 ^ 52 * (1 * 2 ^ (n.log2 + 1022)) := by
    rw [Nat.not_lt, Nat.one_mul, units_eq large, ← Nat.mul_assoc]
    exact Nat.mul_le_mul_right _ (steps_near large).1
  unfold scaleOf
  simp only [guess]
  rw [if_neg enough]

/-- The number in steps, rounded. -/
theorem round_near : 2 ^ 52 ≤ roundHalfEven n (step n) ∧ roundHalfEven n (step n) ≤ 2 ^ 53 := by
  obtain ⟨low, high⟩ := steps_near large
  have least : 2 ^ 52 ≤ n / step n := (Nat.le_div_iff_mul_le (step_pos n)).2 low
  have most : n / step n < 2 ^ 53 := (Nat.div_lt_iff_lt_mul (step_pos n)).2 high
  rcases roundHalfEven_eq n (step n) with down | up <;> omega

theorem ofNat_eq (bounded : n.log2 ≤ 1022) :
    ofNat n = ofBits false ((n.log2 + 1022) * 2 ^ 52 + roundHalfEven n (step n)) := by
  have filled : n ≠ 0 := by
    rintro rfl
    exact absurd large (by decide)
  have near := (round_near large).2
  have finite : min ((n.log2 + 1022) * 2 ^ 52 + roundHalfEven n (step n)) infinityBits =
      (n.log2 + 1022) * 2 ^ 52 + roundHalfEven n (step n) := by
    unfold infinityBits
    omega
  unfold ofNat ofRatio
  rw [if_neg filled]
  simp only [scaleOf_one large]
  rw [Nat.one_mul, units_eq large, roundHalfEven_mul_right _ _ (Nat.two_pow_pos 1074), finite]

theorem magnitudeBits_ofNat (bounded : n.log2 ≤ 1022) :
    (ofNat n).magnitudeBits = (n.log2 + 1022) * 2 ^ 52 + roundHalfEven n (step n) := by
  have near := (round_near large).2
  rw [ofNat_eq large bounded, magnitudeBits_ofBits _ (by omega)]

omit large in
/-- An interval in units above one holds a number if its ends do, in quarters of the unit. -/
theorem holds_of_unit {m : Magnitude} (unit : Nat) (scale : 2 ^ m.scale = unit * 2 ^ 1074)
    (low : (4 * m.significand - m.below) * unit ≤ 4 * n)
    (high : 4 * n ≤ (4 * m.significand + 2) * unit)
    (strict : m.significand % 2 = 1 →
      (4 * m.significand - m.below) * unit < 4 * n ∧ 4 * n < (4 * m.significand + 2) * unit) :
    m.interval.holds n 1 = true := by
  have quarters : n * 2 ^ 1076 = 4 * n * 2 ^ 1074 := by
    have four : 2 ^ 1076 = 4 * 2 ^ 1074 := by decide +kernel
    rw [four]
    ring
  have positive : 0 < 2 ^ 1074 := Nat.two_pow_pos _
  have opened : m.interval.closed = false ↔ m.significand % 2 = 1 := by
    change decide (m.significand % 2 = 0) = false ↔ _
    rw [decide_eq_false_iff_not]
    omega
  rw [holds_iff, interval_low, interval_high, opened, scale, quarters, Nat.mul_one, Nat.mul_one,
    ← Nat.mul_assoc, ← Nat.mul_assoc]
  refine ⟨Nat.mul_le_mul_right _ low, Nat.mul_le_mul_right _ high, fun odd => ?_⟩
  obtain ⟨less, greater⟩ := strict odd
  exact ⟨Nat.mul_lt_mul_of_pos_right less positive, Nat.mul_lt_mul_of_pos_right greater positive⟩

omit large in
/-- An interval holds a number that is half a unit at most from its middle, or a quarter where the
units below are smaller. -/
theorem holds_of_near {m : Magnitude} (unit : Nat) (scale : 2 ^ m.scale = unit * 2 ^ 1074)
    (above : 2 * (m.significand * unit) ≤ 2 * n + unit)
    (below : 2 * n ≤ 2 * (m.significand * unit) + unit)
    (strict : m.significand % 2 = 1 →
      2 * (m.significand * unit) < 2 * n + unit ∧ 2 * n < 2 * (m.significand * unit) + unit)
    (power : m.below = 1 → 4 * (m.significand * unit) ≤ 4 * n + unit) :
    m.interval.holds n 1 = true := by
  have lower : (4 * m.significand - m.below) * unit =
      4 * (m.significand * unit) - m.below * unit := by
    rw [Nat.sub_mul, Nat.mul_assoc]
  have upper : (4 * m.significand + 2) * unit = 4 * (m.significand * unit) + 2 * unit := by
    rw [Nat.add_mul, Nat.mul_assoc]
  have whole : m.significand % 2 = 1 → m.below = 2 := by
    intro odd
    unfold Magnitude.below
    rw [if_neg (by omega)]
  have two : m.below = 1 ∨ m.below = 2 := by
    have := below_pos m
    omega
  refine holds_of_unit unit scale ?_ ?_ fun odd => ?_
  · rcases two with one | two
    · have := power one
      rw [lower, one]
      omega
    · rw [lower, two]
      omega
  · omega
  · have := strict odd
    have filled : unit ≤ m.significand * unit := Nat.le_mul_of_pos_left unit (by omega)
    rw [lower, upper, whole odd]
    omega

/-- A number lies in the interval of its double. -/
theorem holds_ofNat (bounded : n.log2 ≤ 1022) :
    (ofNat n).magnitude.interval.holds n 1 = true := by
  obtain ⟨least, most⟩ := round_near large
  obtain ⟨above, below, strict⟩ := roundHalfEven_near n (step_pos n)
  obtain ⟨low, high⟩ := steps_near large
  have units := units_eq large
  rw [magnitude_eq, magnitudeBits_ofNat large bounded]
  generalize roundHalfEven n (step n) = rounded at *
  generalize step n = unit at *
  by_cases carry : rounded = 2 ^ 53
  · -- The point moves, and the steps above the number are twice as wide.
    have bits : (n.log2 + 1022) * 2 ^ 52 + rounded = (n.log2 + 1023 + 1) * 2 ^ 52 + 0 := by omega
    rw [bits, magnitudeOf_normal _ (by omega)]
    subst carry
    refine holds_of_near (2 * unit) ?_ ?_ ?_ ?_ ?_
    · rw [Nat.pow_succ', units, Nat.mul_assoc]
    all_goals
      dsimp only
      omega
  · obtain ⟨fraction, rfl⟩ := Nat.exists_eq_add_of_le' least
    have bits : (n.log2 + 1022) * 2 ^ 52 + (fraction + 2 ^ 52) =
        (n.log2 + 1022 + 1) * 2 ^ 52 + fraction := by omega
    rw [bits, magnitudeOf_normal _ (by omega)]
    refine holds_of_near unit units above below strict fun one => ?_
    have first : fraction = 0 := by
      by_contra inner
      simp [Magnitude.below, inner] at one
    subst first
    dsimp only
    omega

theorem contains_ofNat (bounded : n.log2 ≤ 1022) :
    (ofNat n).magnitude.interval.Contains n := by
  simpa using contains_of_holds Nat.one_pos (holds_ofNat large bounded)

end

theorem isNegative_ofNat {n : Nat} (large : 52 ≤ n.log2) (bounded : n.log2 ≤ 1022) :
    (ofNat n).isNegative = false := by
  have near := (round_near large).2
  rw [ofNat_eq large bounded, isNegative_ofBits _ (by omega)]

theorem isFinite_ofNat {n : Nat} (large : 52 ≤ n.log2) (bounded : n.log2 ≤ 1022) :
    (ofNat n).isFinite = true := by
  have near := (round_near large).2
  unfold isFinite infinityBits
  rw [magnitudeBits_ofNat large bounded, decide_eq_true_eq]
  omega

end FluentQuery.Binary64
