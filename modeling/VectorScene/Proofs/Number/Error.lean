import VectorScene.Proofs.Number.Exact

/-!
# Errors of binary64 arithmetic

An operation rounds its exact result once.  Where the exact result is at most a power of two,
so is the rounded one, and the two are at most half a unit of the last place below that power
apart.
-/

namespace VectorScene.Number.Binary64

/-- A finite number next to a rational, at most half a unit of the last place below a power of
two away from it, and at most the power itself. -/
structure Rounds (result : Binary64) (value : Rat) (exponent : Int) : Prop where
  finite : result.isFinite = true
  near : |result.toRat - value| ≤ (2 : Rat) ^ (exponent - 54)
  small : |result.toRat| ≤ (2 : Rat) ^ exponent

/-! ## Magnitudes -/

section

variable {value : Rat} {exponent : Int}

/-- The units of a place that make up a power of two. -/
theorem exists_units_power {place : Int} (below : place ≤ exponent) :
    ∃ units : Int, (2 : Rat) ^ exponent = units * (2 : Rat) ^ place := by
  obtain ⟨places, same⟩ := Int.eq_ofNat_of_zero_le (show 0 ≤ exponent - place by omega)
  refine ⟨2 ^ places, ?_⟩
  rw [Int.cast_pow, Int.cast_ofNat, ← zpow_natCast, ← zpow_add₀ two_ne_zero]
  congr 1
  omega

/-- A power of two is exact. -/
theorem magnitude_nearestOrdinal_power (normal : -1021 ≤ exponent) :
    magnitude (nearestOrdinal ((2 : Rat) ^ exponent)) = 2 ^ exponent := by
  have positive : (0 : Rat) < 2 ^ exponent := by positivity
  have above : (2 : Rat) ^ exponent < 2 ^ (exponent + 1) :=
    zpow_lt_zpow_right₀ one_lt_two (by omega)
  have place := placeAt_le positive above (by omega)
  obtain ⟨units, whole⟩ :=
    exists_units_power (show placeAt (2 ^ exponent : Rat) ≤ exponent by omega)
  exact magnitude_nearestOrdinal_of_units units positive whole

/-- Below a power of two a magnitude is moved by half a unit at most. -/
theorem magnitude_nearestOrdinal_near (normal : -1021 ≤ exponent) (positive : 0 < value)
    (below : value < 2 ^ exponent) :
    |magnitude (nearestOrdinal value) - value| ≤ (2 : Rat) ^ (exponent - 54) := by
  have place := placeAt_le positive below normal
  have unit : (0 : Rat) < 2 ^ placeAt value := by positivity
  have whole : value = scaled value * 2 ^ placeAt value := (div_mul_cancel₀ value unit.ne').symm
  have moved : magnitude (nearestOrdinal value) - value =
      (nearestEven (scaled value) - scaled value) * 2 ^ placeAt value := by
    rw [magnitude_nearestOrdinal positive, sub_mul, ← whole]
  have half : |nearestEven (scaled value) - scaled value| ≤ (2 : Rat) ^ (-1 : Int) := by
    obtain ⟨low, high⟩ := nearestEven_bounds (scaled value)
    rw [zpow_neg_one, abs_le]
    constructor <;> linarith
  calc |magnitude (nearestOrdinal value) - value|
      = |nearestEven (scaled value) - scaled value| * 2 ^ placeAt value := by
        rw [moved, abs_mul, abs_of_pos unit]
    _ ≤ (2 : Rat) ^ (-1 : Int) * 2 ^ placeAt value := by gcongr
    _ = (2 : Rat) ^ (placeAt value - 1) := by
        rw [← zpow_add₀ two_ne_zero]
        congr 1
        omega
    _ ≤ (2 : Rat) ^ (exponent - 54) := zpow_le_zpow_right₀ one_le_two (by omega)

/-- It is not moved past the power either. -/
theorem magnitude_nearestOrdinal_le_power (normal : -1021 ≤ exponent) (positive : 0 < value)
    (below : value < 2 ^ exponent) :
    magnitude (nearestOrdinal value) ≤ (2 : Rat) ^ exponent := by
  have place := placeAt_le positive below normal
  obtain ⟨units, power⟩ := exists_units_power (show placeAt value ≤ exponent by omega)
  have fewer : scaled value ≤ units := by
    rw [scaled, div_le_iff₀ (by positivity), ← power]
    exact below.le
  have rounded := nearestEven_mono fewer
  rw [nearestEven_intCast] at rounded
  rw [magnitude_nearestOrdinal positive, power]
  gcongr

/-- Up to a power of two a magnitude is rounded to one next to it. -/
theorem rounds_ofMagnitude (normal : -1021 ≤ exponent) (inRange : exponent ≤ 1022)
    (nonnegative : 0 ≤ value) (small : value ≤ 2 ^ exponent) (negative : Bool) :
    Rounds (ofMagnitude negative value) (if negative then -value else value) exponent := by
  have below : value < overflow :=
    calc value
        ≤ (2 : Rat) ^ exponent := small
      _ < (2 : Rat) ^ (1023 : Int) := zpow_lt_zpow_right₀ one_lt_two (by omega)
      _ ≤ overflow := le_overflow
  have near : |magnitude (nearestOrdinal value) - value| ≤ (2 : Rat) ^ (exponent - 54) ∧
      magnitude (nearestOrdinal value) ≤ 2 ^ exponent := by
    rcases nonnegative.eq_or_lt with rfl | positive
    · rw [nearestOrdinal_zero, magnitude_subnormal (by decide), Nat.cast_zero, zero_mul, sub_zero,
        abs_zero]
      constructor <;> positivity
    · -- Half a unit below the power is a bound for smaller values, and the power itself is exact.
      rcases small.eq_or_lt with rfl | less
      · rw [magnitude_nearestOrdinal_power normal, sub_self, abs_zero]
        exact ⟨by positivity, le_rfl⟩
      · exact ⟨magnitude_nearestOrdinal_near normal positive less,
          magnitude_nearestOrdinal_le_power normal positive less⟩
  rw [ofMagnitude_eq_finite below]
  refine ⟨rfl, ?_, (abs_toRat negative _).trans_le near.2⟩
  cases negative with
  | false => exact near.1
  | true =>
      have flipped : -magnitude (nearestOrdinal value) - -value =
          -(magnitude (nearestOrdinal value) - value) := by ring
      change |-magnitude (nearestOrdinal value) - -value| ≤ _
      rw [flipped, abs_neg]
      exact near.1

/-- Up to a power of two a rational is rounded to a number next to it. -/
theorem rounds_ofRat (normal : -1021 ≤ exponent) (inRange : exponent ≤ 1022)
    (small : |value| ≤ 2 ^ exponent) : Rounds (ofRat value) value exponent := by
  have rounds := rounds_ofMagnitude normal inRange (abs_nonneg value) small (decide (value < 0))
  rw [ofRat_eq_ofMagnitude]
  rcases lt_or_ge value 0 with negative | nonnegative
  · rw [decide_eq_true negative, if_pos rfl, abs_of_neg negative, neg_neg] at rounds
    rw [decide_eq_true negative, abs_of_neg negative]
    exact rounds
  · rw [decide_eq_false (not_lt.2 nonnegative), if_neg Bool.false_ne_true,
      abs_of_nonneg nonnegative] at rounds
    rw [decide_eq_false (not_lt.2 nonnegative), abs_of_nonneg nonnegative]
    exact rounds

theorem toRat_ofRat_nonneg (nonnegative : 0 ≤ value) (small : value < overflow) :
    0 ≤ (ofRat value).toRat := by
  rw [ofRat_eq_finite nonnegative small]
  exact magnitude_nonneg _

end

/-! ## Operations -/

section

variable {left right : Binary64} {exponent : Int} (normal : -1021 ≤ exponent)
  (inRange : exponent ≤ 1022)

include normal inRange

/-- A sum is rounded once. -/
theorem rounds_add (finiteLeft : left.isFinite = true) (finiteRight : right.isFinite = true)
    (small : |left.toRat + right.toRat| ≤ 2 ^ exponent) :
    Rounds (left + right) (left.toRat + right.toRat) exponent := by
  obtain ⟨sign, place, rfl⟩ := exists_of_isFinite finiteLeft
  obtain ⟨other, otherPlace, rfl⟩ := exists_of_isFinite finiteRight
  change Rounds (add (.finite sign place) (.finite other otherPlace)) _ _
  rw [add]
  split
  next zero =>
    have none : (signedZero (sign && other)).toRat = 0 := by
      cases sign <;> cases other <;> decide +kernel
    rw [zero]
    refine ⟨rfl, ?_, ?_⟩
    · rw [none, sub_zero, abs_zero]
      positivity
    · rw [none, abs_zero]
      positivity
  next => exact rounds_ofRat normal inRange small

theorem rounds_add_one (finite : left.isFinite = true) (small : |left.toRat + 1| ≤ 2 ^ exponent) :
    Rounds (left + one) (left.toRat + 1) exponent := by
  have unit : one.isFinite = true ∧ one.toRat = 1 := by
    rw [one_eq]
    exact ⟨rfl, magnitude_one⟩
  rw [← unit.2] at small ⊢
  exact rounds_add normal inRange finite unit.1 small

theorem rounds_sub_one (finite : left.isFinite = true) (small : |left.toRat - 1| ≤ 2 ^ exponent) :
    Rounds (left - one) (left.toRat - 1) exponent := by
  have unit : one.neg.isFinite = true ∧ one.neg.toRat = -1 := by
    rw [one_eq]
    exact ⟨rfl, congrArg Neg.neg magnitude_one⟩
  rw [sub_eq_add_neg, ← unit.2] at small ⊢
  exact rounds_add normal inRange finite unit.1 small

/-- A product is rounded once. -/
theorem rounds_mul (finiteLeft : left.isFinite = true) (finiteRight : right.isFinite = true)
    (small : |left.toRat * right.toRat| ≤ 2 ^ exponent) :
    Rounds (left * right) (left.toRat * right.toRat) exponent := by
  obtain ⟨sign, place, rfl⟩ := exists_of_isFinite finiteLeft
  obtain ⟨other, otherPlace, rfl⟩ := exists_of_isFinite finiteRight
  have product : (Binary64.finite sign place).toRat * (Binary64.finite other otherPlace).toRat =
      if sign != other then -(magnitude place * magnitude otherPlace)
      else magnitude place * magnitude otherPlace := by
    cases sign <;> cases other <;> simp [toRat]
  rw [abs_mul, abs_toRat, abs_toRat] at small
  rw [product]
  exact rounds_ofMagnitude normal inRange
    (mul_nonneg (magnitude_nonneg _) (magnitude_nonneg _)) small (sign != other)

/-- A half is rounded once. -/
theorem rounds_div_two (finite : left.isFinite = true) (small : |left.toRat / 2| ≤ 2 ^ exponent) :
    Rounds (left / two) (left.toRat / 2) exponent := by
  obtain ⟨sign, place, rfl⟩ := exists_of_isFinite finite
  have half : (Binary64.finite sign place).toRat / 2 =
      if sign then -(magnitude place / 2) else magnitude place / 2 := by
    cases sign with
    | false => rfl
    | true => exact neg_div 2 (magnitude place)
  rw [abs_div, abs_toRat, abs_two] at small
  rw [finite_div_two, half]
  exact rounds_ofMagnitude normal inRange (div_nonneg (magnitude_nonneg _) zero_le_two) small sign

end

end VectorScene.Number.Binary64
