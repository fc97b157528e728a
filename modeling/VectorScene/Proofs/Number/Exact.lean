import VectorScene.Proofs.Number.Magnitude

/-!
# Exact results

A magnitude is the rational nearest to itself, and so is an integer of at most `2⁵³`.
From one on, halving a rational commutes with rounding it.
-/

namespace VectorScene.Number

/-! ## Rounding -/

/-- A rational that is not negative is at most doubled by rounding. -/
theorem nearestEven_le_two_mul {value : Rat} (nonnegative : 0 ≤ value) :
    (nearestEven value : Rat) ≤ 2 * value := by
  rcases lt_or_ge (2 * value) 1 with small | large
  · have rounded : nearestEven value ≤ 0 := nearestEven_le (by simpa using small)
    have cast : (nearestEven value : Rat) ≤ 0 := by exact_mod_cast rounded
    linarith
  · have near := (nearestEven_bounds value).2
    linarith

namespace Binary64

/-- The binary logarithm is the only exponent between whose powers a rational lies. -/
theorem binaryLog_eq {value : Rat} {exponent : Int} (low : (2 : Rat) ^ exponent ≤ value)
    (high : value < (2 : Rat) ^ (exponent + 1)) : binaryLog value = exponent := by
  have positive : 0 < value := lt_of_lt_of_le (by positivity) low
  obtain ⟨lowLog, highLog⟩ := binaryLog_spec positive
  have atMost := (zpow_lt_zpow_iff_right₀ one_lt_two).1 (lt_of_le_of_lt lowLog high)
  have atLeast := (zpow_lt_zpow_iff_right₀ one_lt_two).1 (lt_of_le_of_lt low highLog)
  omega

/-! ## Magnitudes -/

theorem nearestOrdinal_zero : nearestOrdinal 0 = 0 :=
  if_pos le_rfl

/-- A whole number of units of a place is rounded to itself. -/
theorem nearestOrdinal_units {units : Nat} {place : Int} (positive : 0 < units)
    (same : placeAt (units * (2 : Rat) ^ place) = place) :
    (nearestOrdinal (units * (2 : Rat) ^ place) : Int) = (place + 1074) * 2 ^ 52 + units := by
  have power : (0 : Rat) < 2 ^ place := by positivity
  have whole : scaled (units * (2 : Rat) ^ place) = (units : Int) := by
    rw [scaled, same, mul_div_cancel_right₀ _ power.ne', Int.cast_natCast]
  have value : (0 : Rat) < units * 2 ^ place := mul_pos (by exact_mod_cast positive) power
  rw [nearestOrdinal_eq value, same, whole, nearestEven_intCast]

/-- A magnitude in units of its last place, of which there are fewer than `2⁵²` only at
the least place. -/
theorem exists_units (ordinal : Nat) : ∃ steps units, ordinal = steps * binade + units ∧
    units < 2 * binade ∧ (steps = 0 ∨ binade ≤ units) ∧
    magnitude ordinal = units * (2 : Rat) ^ ((steps : Int) - 1074) := by
  rcases lt_or_ge ordinal binade with small | large
  · refine ⟨0, ordinal, by omega, by omega, .inl rfl, ?_⟩
    rw [magnitude_subnormal small]
    rfl
  · have split := Nat.div_add_mod' (ordinal - binade) binade
    have below := Nat.mod_lt (ordinal - binade) (show 0 < binade by decide)
    have whole : (ordinal - binade) / binade * binade + (binade + (ordinal - binade) % binade) =
        ordinal := by omega
    refine ⟨_, _, whole.symm, by omega, .inr (Nat.le_add_right _ _), ?_⟩
    rw [← magnitude_normal (Nat.le_add_right _ _) (by omega), whole]

/-- A magnitude is rounded to itself. -/
theorem nearestOrdinal_magnitude (ordinal : Nat) :
    nearestOrdinal (magnitude ordinal) = ordinal := by
  obtain ⟨steps, units, whole, high, normal, value⟩ := exists_units ordinal
  have width : binade = 2 ^ 52 := rfl
  rcases Nat.eq_zero_or_pos units with rfl | positive
  · obtain rfl : steps = 0 := normal.resolve_right (by decide)
    rw [value, whole, Nat.cast_zero, zero_mul, nearestOrdinal_zero, zero_mul]
  · have upper : (units : Rat) * 2 ^ ((steps : Int) - 1074) < 2 ^ ((steps : Int) - 1021) := by
      have few : (units : Rat) < 2 ^ 53 := by exact_mod_cast (by omega : units < 2 ^ 53)
      have power : (2 : Rat) ^ ((steps : Int) - 1021) = 2 ^ 53 * 2 ^ ((steps : Int) - 1074) := by
        rw [← zpow_natCast, ← zpow_add₀ two_ne_zero]
        congr 1
        omega
      rw [power]
      gcongr
    have atMost := placeAt_le (by positivity) upper (by omega)
    have place : placeAt (units * (2 : Rat) ^ ((steps : Int) - 1074)) = steps - 1074 := by
      rcases normal with rfl | many
      · have least : -1074 ≤ placeAt (units * (2 : Rat) ^ ((0 : Nat) - 1074 : Int)) :=
          le_max_right _ _
        omega
      · have lower : (2 : Rat) ^ ((steps : Int) - 1022) ≤ units * 2 ^ ((steps : Int) - 1074) := by
          have enough : (2 : Rat) ^ 52 ≤ units := by exact_mod_cast (by omega : 2 ^ 52 ≤ units)
          have power : (2 : Rat) ^ ((steps : Int) - 1022) =
              2 ^ 52 * 2 ^ ((steps : Int) - 1074) := by
            rw [← zpow_natCast, ← zpow_add₀ two_ne_zero]
            congr 1
            omega
          rw [power]
          gcongr
        have atLeast := le_placeAt lower
        omega
    have rounded := nearestOrdinal_units positive place
    rw [width] at whole
    rw [value]
    omega

/-- A rational is at most doubled by rounding. -/
theorem magnitude_nearestOrdinal_le {value : Rat} (nonnegative : 0 ≤ value) :
    magnitude (nearestOrdinal value) ≤ 2 * value := by
  rcases nonnegative.eq_or_lt with rfl | positive
  · rw [nearestOrdinal_zero, magnitude_subnormal (by decide)]
    norm_num
  · have scaledNonnegative : 0 ≤ scaled value := by
      rw [scaled]
      positivity
    calc magnitude (nearestOrdinal value)
        = nearestEven (scaled value) * (2 : Rat) ^ placeAt value :=
          magnitude_nearestOrdinal positive
      _ ≤ 2 * scaled value * (2 : Rat) ^ placeAt value := by
          gcongr
          exact nearestEven_le_two_mul scaledNonnegative
      _ = 2 * value := by
          rw [scaled]
          field_simp

/-! ## Halves -/

/-- Halving a magnitude from one on takes it one exponent down. -/
theorem nearestOrdinal_half {value : Rat} (large : 1 ≤ value) :
    nearestOrdinal (value / 2) + binade = nearestOrdinal value := by
  have positive : 0 < value := lt_of_lt_of_le one_pos large
  obtain ⟨low, high⟩ := binaryLog_spec positive
  have log : binaryLog (value / 2) = binaryLog value - 1 := by
    refine binaryLog_eq ?_ ?_
    · rw [zpow_sub_one₀ two_ne_zero]
      linarith
    · rw [sub_add_cancel]
      rw [zpow_add_one₀ two_ne_zero] at high
      linarith
  have place : placeAt (value / 2) = placeAt value - 1 := by
    have atLeast : 0 - 52 ≤ placeAt value := le_placeAt (by simpa using large)
    rw [placeAt] at atLeast ⊢
    rw [placeAt, log]
    omega
  have units : scaled (value / 2) = scaled value := by
    rw [scaled, scaled, place, zpow_sub_one₀ two_ne_zero]
    field_simp
  have half := nearestOrdinal_eq (half_pos positive)
  have whole := nearestOrdinal_eq positive
  rw [place, units] at half
  have width : (binade : Int) = 2 ^ 52 := rfl
  omega

/-- Rounding before halving makes no difference from one on. -/
theorem nearestOrdinal_half_magnitude {value : Rat} (large : 1 ≤ value) :
    nearestOrdinal (magnitude (nearestOrdinal value) / 2) = nearestOrdinal (value / 2) := by
  have rounded := nearestOrdinal_half (one_le_magnitude large)
  have exact := nearestOrdinal_half large
  rw [nearestOrdinal_magnitude] at rounded
  omega

/-! ## Operations -/

theorem ofRat_eq_ofMagnitude (value : Rat) :
    ofRat value = ofMagnitude (decide (value < 0)) |value| := by
  rw [ofRat]
  split
  next negative => rw [abs_of_neg negative, decide_eq_true negative]
  next nonnegative =>
    rw [abs_of_nonneg (not_lt.1 nonnegative), decide_eq_false nonnegative]

theorem exists_of_isFinite {value : Binary64} (finite : value.isFinite = true) :
    ∃ sign place, value = .finite sign place := by
  cases value with
  | finite sign place => exact ⟨sign, place, rfl⟩
  | infinity _ => cases finite
  | nan => cases finite

/-- Adding one does not leave the range. -/
theorem abs_toRat_add_one_lt (negative : Bool) (ordinal : Fin magnitudeCount) :
    |(Binary64.finite negative ordinal).toRat + 1| < overflow := by
  have largest := magnitude_add_one_lt ordinal.isLt
  have apart := abs_add_le (Binary64.finite negative ordinal).toRat 1
  rw [abs_toRat, abs_one] at apart
  exact lt_of_le_of_lt apart largest

/-- Adding one rounds the exact sum. -/
theorem finite_add_one (negative : Bool) (ordinal : Fin magnitudeCount) :
    Binary64.finite negative ordinal + one =
      ofRat ((Binary64.finite negative ordinal).toRat + 1) := by
  have unit : (Binary64.finite false ⟨1023 * binade, by decide⟩).toRat = 1 := magnitude_one
  have sum : Binary64.finite negative ordinal + one =
      add (.finite negative ordinal) (.finite false ⟨1023 * binade, by decide⟩) := by
    rw [one_eq]
    rfl
  rw [sum, add, unit]
  split
  next zero =>
    rw [zero, Bool.and_false]
    decide +kernel
  next => rfl

/-- Halving rounds half the magnitude. -/
theorem finite_div_two (negative : Bool) (ordinal : Fin magnitudeCount) :
    Binary64.finite negative ordinal / two = ofMagnitude negative (magnitude ordinal / 2) := by
  have nonzero : (Binary64.finite false ⟨1024 * binade, by decide⟩).isZero = false := by decide
  have quotient : Binary64.finite negative ordinal / two =
      div (.finite negative ordinal) (.finite false ⟨1024 * binade, by decide⟩) := by
    rw [two_eq]
    rfl
  rw [quotient, div, nonzero]
  simp only [Bool.false_eq_true, if_false, isNegative, Bool.bne_false, magnitude_two]

/-- A value below the bound is at most doubled by rounding. -/
theorem exists_ofRat {value : Rat} (small : |value| < overflow) : ∃ sign place,
    ofRat value = .finite sign place ∧ magnitude place ≤ 2 * |value| := by
  rw [ofRat_eq_ofMagnitude, ofMagnitude_eq_finite small]
  exact ⟨_, _, rfl, magnitude_nearestOrdinal_le (abs_nonneg value)⟩

/-- Half of one more than a finite value is finite. -/
theorem exists_half_add_one (negative : Bool) (ordinal : Fin magnitudeCount) : ∃ sign place,
    (Binary64.finite negative ordinal + one) / two = .finite sign place ∧
      magnitude place ≤ 2 * |(Binary64.finite negative ordinal).toRat + 1| := by
  obtain ⟨sign, place, sum, bounded⟩ := exists_ofRat (abs_toRat_add_one_lt negative ordinal)
  have nonnegative := magnitude_nonneg place
  have half : magnitude place / 2 < overflow := by
    have largest := magnitude_add_one_lt place.isLt
    linarith
  have rounded := magnitude_nearestOrdinal_le (div_nonneg nonnegative zero_le_two)
  rw [finite_add_one, sum, finite_div_two, ofMagnitude_eq_finite half]
  refine ⟨_, _, rfl, rounded.trans ?_⟩
  linarith

/-- Halving a rational before or after rounding it is the same, for zero and from one on. -/
theorem ofRat_div_two {value : Rat} (small : |value| < overflow)
    (large : value = 0 ∨ 1 ≤ |value|) : ofRat value / two = ofRat (value / 2) := by
  have sign : decide (value / 2 < 0) = decide (value < 0) := by
    rw [decide_eq_decide]
    constructor <;> intro <;> linarith
  have half : nearestOrdinal (magnitude (nearestOrdinal |value|) / 2) =
      nearestOrdinal (|value| / 2) := by
    rcases large with rfl | large
    · rw [abs_zero, nearestOrdinal_zero, magnitude_subnormal (by decide), Nat.cast_zero, zero_mul]
    · exact nearestOrdinal_half_magnitude large
  rw [ofRat_eq_ofMagnitude, ofMagnitude_eq_finite small, finite_div_two, ofRat_eq_ofMagnitude,
    sign, abs_div, abs_two]
  simp only [ofMagnitude, half]

/-! ## Integers -/

/-- A rational that is a whole number of units of its last place is exact. -/
theorem magnitude_nearestOrdinal_of_units {value : Rat} (units : Int) (positive : 0 < value)
    (whole : value = units * (2 : Rat) ^ placeAt value) :
    magnitude (nearestOrdinal value) = value := by
  have same : scaled value = units := by
    rw [scaled, div_eq_iff (by positivity)]
    exact whole
  rw [magnitude_nearestOrdinal positive, same, nearestEven_intCast]
  exact whole.symm

/-- An integer of at most `2⁵³` is exact. -/
theorem magnitude_nearestOrdinal_natCast {number : Nat} (small : number ≤ 2 ^ 53) :
    magnitude (nearestOrdinal number) = number := by
  rcases Nat.eq_zero_or_pos number with rfl | positive
  · rw [Nat.cast_zero, nearestOrdinal_zero, magnitude_subnormal (by decide), Nat.cast_zero,
      zero_mul]
  have value : (0 : Rat) < number := by exact_mod_cast positive
  rcases small.eq_or_lt with rfl | below
  · have power : (((2 ^ 53 : Nat) : Rat)) = 2 ^ (53 : Int) := by norm_num
    have atMost : placeAt ((2 ^ 53 : Nat) : Rat) ≤ 54 - 53 :=
      placeAt_le value (by rw [power]; norm_num) (by decide)
    have atLeast := le_placeAt power.ge
    have place : placeAt ((2 ^ 53 : Nat) : Rat) = 1 := by omega
    refine magnitude_nearestOrdinal_of_units (2 ^ 52) value ?_
    rw [place]
    norm_num
  · have upper : (number : Rat) < 2 ^ (53 : Int) := by exact_mod_cast below
    have place := placeAt_le value upper (by decide)
    obtain ⟨places, same⟩ := Int.eq_ofNat_of_zero_le (show 0 ≤ -placeAt (number : Rat) by omega)
    have negated : placeAt (number : Rat) = -(places : Int) := by omega
    refine magnitude_nearestOrdinal_of_units (number * 2 ^ places) value ?_
    rw [negated, zpow_neg, zpow_natCast]
    push_cast
    field_simp

theorem toRat_ofRat {value : Rat} (small : |value| < overflow)
    (exact : magnitude (nearestOrdinal |value|) = |value|) : (ofRat value).toRat = value := by
  rw [ofRat_eq_ofMagnitude, ofMagnitude_eq_finite small]
  rcases lt_or_ge value 0 with negative | nonnegative
  · rw [decide_eq_true negative]
    change -magnitude (nearestOrdinal |value|) = value
    rw [exact, abs_of_neg negative, neg_neg]
  · rw [decide_eq_false (not_lt.2 nonnegative)]
    change magnitude (nearestOrdinal |value|) = value
    rw [exact, abs_of_nonneg nonnegative]

/-- An integer of at most `2⁵³` of either sign is exact. -/
theorem toRat_ofRat_intCast {number : Int} (small : |number| ≤ 2 ^ 53) :
    |(number : Rat)| < overflow ∧ (ofRat number).toRat = number := by
  have absolute : |(number : Rat)| = (number.natAbs : Nat) := by
    rw [Nat.cast_natAbs, Int.cast_abs]
  have few : number.natAbs ≤ 2 ^ 53 := by
    rw [Int.abs_eq_natAbs] at small
    exact_mod_cast small
  have below : |(number : Rat)| < overflow := by
    refine lt_of_lt_of_le ?_ le_overflow
    calc |(number : Rat)|
        ≤ 2 ^ (53 : Int) := by
          rw [absolute]
          exact_mod_cast few
      _ < 2 ^ (1023 : Int) := zpow_lt_zpow_right₀ one_lt_two (by decide)
  refine ⟨below, toRat_ofRat below ?_⟩
  rw [absolute, magnitude_nearestOrdinal_natCast few]

end Binary64

end VectorScene.Number
