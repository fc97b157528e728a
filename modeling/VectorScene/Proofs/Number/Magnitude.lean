import VectorScene.Proofs.Number.Range

/-!
# Magnitudes of binary64 numbers

The magnitude at the position nearest to a rational is a whole number of units of
the rational's last place.  This bounds rounded values from both sides.
-/

namespace VectorScene.Number.Binary64

/-! ## Bounds of magnitudes -/

theorem significand_lt (ordinal : Nat) : significand ordinal < 2 ^ 53 := by
  have width : binade = 2 ^ 52 := rfl
  have below := Nat.mod_lt ordinal (show 0 < binade by decide)
  rw [significand]
  split
  · omega
  · omega

theorem magnitude_nonneg (ordinal : Nat) : 0 ≤ magnitude ordinal := by
  rw [magnitude, powerOfTwo_eq_zpow]
  positivity

/-- The largest finite magnitude. -/
theorem magnitude_le {ordinal : Nat} (finite : ordinal < magnitudeCount) :
    magnitude ordinal ≤ (2 ^ 53 - 1) * (2 : Rat) ^ (971 : Int) := by
  have digits : (significand ordinal : Rat) ≤ 2 ^ 53 - 1 := by
    have whole : significand ordinal ≤ 2 ^ 53 - 1 := Nat.le_sub_one_of_lt (significand_lt ordinal)
    have cast : (significand ordinal : Rat) ≤ (2 ^ 53 - 1 : Nat) := by exact_mod_cast whole
    refine cast.trans ?_
    norm_num
  have place : lastPlace ordinal ≤ 971 := by
    have quotient := Nat.div_lt_of_lt_mul (show ordinal < binade * 2047 by omega)
    rw [lastPlace]
    omega
  rw [magnitude, powerOfTwo_eq_zpow]
  gcongr
  · exact one_le_two

/-- Above the largest finite magnitude there is more than one to the bound. -/
theorem magnitude_add_one_lt {ordinal : Nat} (finite : ordinal < magnitudeCount) :
    magnitude ordinal + 1 < overflow := by
  have largest := magnitude_le finite
  have four : (4 : Rat) ≤ 2 ^ (971 : Int) :=
    calc (4 : Rat) = 2 ^ (2 : Int) := by norm_num
      _ ≤ 2 ^ (971 : Int) := zpow_le_zpow_right₀ one_le_two (by decide)
  rw [overflow_eq]
  generalize (2 : Rat) ^ (971 : Int) = unit at largest four ⊢
  linarith

/-! ## Rounded magnitudes -/

/-- The magnitudes below the first power of two with a place of its own. -/
theorem magnitude_subnormal {units : Nat} (small : units < binade) :
    magnitude units = units * (2 : Rat) ^ (-1074 : Int) := by
  have place : lastPlace units = -1074 := by
    rw [lastPlace, Nat.div_eq_of_lt small]
    rfl
  rw [magnitude, powerOfTwo_eq_zpow, significand, if_pos small, place]

/-- The magnitudes of one exponent are those of one last place. -/
theorem magnitude_normal {steps units : Nat} (low : binade ≤ units) (high : units < 2 * binade) :
    magnitude (steps * binade + units) = units * (2 : Rat) ^ ((steps : Int) - 1074) := by
  obtain ⟨rest, rfl⟩ := Nat.exists_eq_add_of_le low
  have small : rest < binade := by omega
  have split : steps * binade + (binade + rest) = binade * (steps + 1) + rest := by ring
  have quotient : (binade * (steps + 1) + rest) / binade = steps + 1 := by
    rw [Nat.mul_add_div (by decide), Nat.div_eq_of_lt small, Nat.add_zero]
  have remainder : (binade * (steps + 1) + rest) % binade = rest := by
    rw [Nat.mul_add_mod, Nat.mod_eq_of_lt small]
  have large : ¬binade * (steps + 1) + rest < binade := by
    rw [Nat.mul_succ]
    omega
  have place : lastPlace (binade * (steps + 1) + rest) = steps - 1074 := by
    rw [lastPlace, quotient]
    omega
  rw [split, magnitude, powerOfTwo_eq_zpow, significand, if_neg large, remainder, place]

/-- The magnitude nearest to a rational in units of the rational's last place. -/
theorem magnitude_nearestOrdinal {value : Rat} (positive : 0 < value) :
    magnitude (nearestOrdinal value) =
      nearestEven (scaled value) * (2 : Rat) ^ placeAt value := by
  have ordinal := nearestOrdinal_eq positive
  have least : -1074 ≤ placeAt value := le_max_right _ _
  have nonnegative := nearestEven_scaled_nonneg positive
  have bounded := nearestEven_scaled_le positive
  obtain ⟨units, unitsEq⟩ := Int.eq_ofNat_of_zero_le nonnegative
  obtain ⟨steps, stepsEq⟩ := Int.eq_ofNat_of_zero_le (show 0 ≤ placeAt value + 1074 by omega)
  have place : placeAt value = steps - 1074 := by omega
  have whole : nearestOrdinal value = steps * binade + units := by
    rw [stepsEq, unitsEq] at ordinal
    exact_mod_cast ordinal
  have width : binade = 2 ^ 52 := rfl
  rw [unitsEq] at bounded
  rw [whole, unitsEq, place, Int.cast_natCast]
  rcases lt_or_ge units binade with small | normal
  · have zero : steps = 0 := by
      by_contra positiveSteps
      have rounded := le_nearestEven_scaled positive (by omega)
      omega
    rw [zero, Nat.zero_mul, Nat.zero_add, magnitude_subnormal small]
    rfl
  · rcases lt_or_ge units (2 * binade) with below | atEnd
    · exact magnitude_normal normal below
    · have last : units = 2 * binade := by omega
      have next : steps * binade + 2 * binade = (steps + 1) * binade + binade := by ring
      rw [last, next, magnitude_normal (le_refl binade) (by omega)]
      push_cast
      rw [show (steps : Int) + 1 - 1074 = (steps - 1074) + 1 by ring, zpow_add_one₀ two_ne_zero]
      ring

/-- A rational from one on is not rounded below one. -/
theorem one_le_magnitude {value : Rat} (large : 1 ≤ value) :
    1 ≤ magnitude (nearestOrdinal value) := by
  have positive : 0 < value := lt_of_lt_of_le one_pos large
  rw [magnitude_nearestOrdinal positive]
  rcases le_or_gt (placeAt value) 0 with fraction | whole
  · obtain ⟨places, same⟩ := Int.eq_ofNat_of_zero_le (show 0 ≤ -placeAt value by omega)
    obtain negated : placeAt value = -(places : Int) := by omega
    have units : scaled value = value * 2 ^ places := by
      rw [scaled, negated, zpow_neg, zpow_natCast, div_inv_eq_mul]
    have power : (0 : Rat) < 2 ^ places := by positivity
    have rounded : (2 ^ places : Int) ≤ nearestEven (scaled value) := by
      refine le_nearestEven ?_
      rw [units]
      push_cast
      nlinarith
    calc (1 : Rat)
        = (2 ^ places : Int) * (2 : Rat) ^ placeAt value := by
          rw [negated, zpow_neg, zpow_natCast, Int.cast_pow, Int.cast_ofNat,
            mul_inv_cancel₀ power.ne']
      _ ≤ nearestEven (scaled value) * (2 : Rat) ^ placeAt value := by
          gcongr
  · have rounded : 1 ≤ nearestEven (scaled value) :=
      le_trans (by decide) (le_nearestEven_scaled positive (by omega))
    have digits : (1 : Rat) ≤ nearestEven (scaled value) := by exact_mod_cast rounded
    exact one_le_mul_of_one_le_of_one_le digits (one_le_zpow₀ one_le_two whole.le)

/-! ## Finite results -/

theorem magnitude_two : magnitude (1024 * binade) = 2 := by
  have normal : magnitude (1023 * binade + binade) = binade * (2 : Rat) ^ ((1023 : Int) - 1074) :=
    magnitude_normal (le_refl binade) (by decide)
  rw [show 1024 * binade = 1023 * binade + binade by rfl, normal]
  norm_num

theorem magnitude_one : magnitude (1023 * binade) = 1 := by
  have normal : magnitude (1022 * binade + binade) = binade * (2 : Rat) ^ ((1022 : Int) - 1074) :=
    magnitude_normal (le_refl binade) (by decide)
  rw [show 1023 * binade = 1022 * binade + binade by rfl, normal]
  norm_num

theorem two_eq : two = .finite false ⟨1024 * binade, by decide⟩ := by
  decide +kernel

theorem one_eq : one = .finite false ⟨1023 * binade, by decide⟩ := by
  decide +kernel

theorem abs_toRat (negative : Bool) (ordinal : Fin magnitudeCount) :
    |(Binary64.finite negative ordinal).toRat| = magnitude ordinal := by
  cases negative with
  | false => exact abs_of_nonneg (magnitude_nonneg _)
  | true => exact (abs_neg _).trans (abs_of_nonneg (magnitude_nonneg _))

/-- Doubling leaves the range of finite values at half its bound. -/
theorem isFinite_two_mul (value : Binary64) :
    (two * value).isFinite = true ↔ value.isFinite = true ∧ |2 * value.toRat| < overflow := by
  rw [two_eq]
  cases value with
  | finite negative ordinal =>
      have doubled : |2 * (Binary64.finite negative ordinal).toRat| =
          magnitude (1024 * binade) * magnitude ordinal := by
        rw [abs_mul, abs_toRat, magnitude_two, abs_two]
      rw [doubled]
      exact (isFinite_ofMagnitude _ _).trans (and_iff_right rfl).symm
  | infinity negative => exact iff_of_false Bool.false_ne_true fun both => by cases both.1
  | nan => exact iff_of_false Bool.false_ne_true fun both => by cases both.1

/-- A quotient by a magnitude from one on is finite when the dividend is. -/
theorem isFinite_div {negative : Bool} {ordinal : Fin magnitudeCount}
    (large : 1 ≤ magnitude ordinal) (value : Binary64) :
    (value / .finite negative ordinal).isFinite = true ↔ value.isFinite = true := by
  have nonzero : (Binary64.finite negative ordinal).isZero = false := by
    refine decide_eq_false fun zero => ?_
    rw [zero, magnitude, significand] at large
    norm_num at large
  cases value with
  | finite sign dividend =>
      have quotient : Binary64.finite sign dividend / .finite negative ordinal =
          ofMagnitude (sign != negative) (magnitude dividend / magnitude ordinal) := by
        change div _ _ = _
        rw [div, nonzero]
        rfl
      rw [quotient, isFinite_ofMagnitude]
      refine iff_of_true ?_ rfl
      have below := magnitude_add_one_lt dividend.isLt
      have shrunk := div_le_self (magnitude_nonneg dividend) large
      linarith
  | infinity sign => exact Iff.rfl
  | nan => exact Iff.rfl

/-- Subtracting one does not leave the range of finite values. -/
theorem isFinite_sub_one (value : Binary64) :
    (value - one).isFinite = true ↔ value.isFinite = true := by
  rw [one_eq]
  cases value with
  | finite negative ordinal =>
      refine iff_of_true ?_ rfl
      have difference : Binary64.finite negative ordinal - .finite false ⟨1023 * binade, by decide⟩ =
          add (.finite negative ordinal) (.finite true ⟨1023 * binade, by decide⟩) := rfl
      rw [difference, add]
      split
      next => rfl
      next =>
        have apart := abs_add_le (Binary64.finite negative ordinal).toRat
          (Binary64.finite true ⟨1023 * binade, by decide⟩).toRat
        have below := magnitude_add_one_lt ordinal.isLt
        rw [abs_toRat, abs_toRat, magnitude_one] at apart
        rw [isFinite_ofRat]
        exact lt_of_le_of_lt apart below
  | infinity negative => exact Iff.rfl
  | nan => exact Iff.rfl

end VectorScene.Number.Binary64
