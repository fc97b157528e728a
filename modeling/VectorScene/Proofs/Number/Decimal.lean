import VectorScene.Proofs.Number.Exact
import VectorScene.Proofs.Text.Digit

/-!
# Decimals of binary64 numbers

The shortest decimal of a finite number is read as the number.  For that it need not be known
how many digits suffice, since the exact decimal is there when no shorter one is found.
-/

namespace VectorScene.Number

open VectorScene.Text VectorScene.Number.Binary64

theorem powerOfTen_eq_zpow (exponent : Int) : powerOfTen exponent = (10 : Rat) ^ exponent := by
  rw [powerOfTen]
  split
  next nonnegative =>
    obtain ⟨power, rfl⟩ := Int.eq_ofNat_of_zero_le nonnegative
    simp
  next negative =>
    obtain ⟨power, same⟩ := Int.eq_ofNat_of_zero_le (show 0 ≤ -exponent by omega)
    obtain rfl : exponent = -power := by omega
    simp [Rat.mkRat_eq_div]

/-- A magnitude of less than half the least positive one is rounded to zero. -/
theorem nearestOrdinal_tiny {value : Rat} (tiny : 2 * value < (2 : Rat) ^ (-1074 : Int)) :
    nearestOrdinal value = 0 := by
  rcases le_or_gt value 0 with atMostZero | positive
  · exact if_pos atMostZero
  · have power : (0 : Rat) < 2 ^ (-1074 : Int) := by positivity
    have small : value < (2 : Rat) ^ (-1021 : Int) :=
      calc value < (2 : Rat) ^ (-1074 : Int) := by linarith
        _ ≤ 2 ^ (-1021 : Int) := zpow_le_zpow_right₀ one_le_two (by decide)
    have atMost := placeAt_le positive small (by decide)
    have atLeast : -1074 ≤ placeAt value := le_max_right _ _
    have place : placeAt value = -1074 := by omega
    have less : nearestEven (scaled value) ≤ 0 := by
      apply nearestEven_le
      rw [scaled, place, ← mul_div_assoc, div_lt_iff₀ power]
      simpa using tiny
    have ordinal := nearestOrdinal_eq positive
    have nonnegative := nearestEven_scaled_nonneg positive
    rw [place] at ordinal
    omega

namespace Decimal

/-! ## The size of a decimal -/

theorem toRat_eq (decimal : Decimal) :
    decimal.toRat = decimal.coefficient * (10 : Rat) ^ decimal.exponent := by
  rw [toRat, powerOfTen_eq_zpow]

theorem toRat_lt (decimal : Decimal) : decimal.toRat < (10 : Rat) ^ decimal.scale := by
  have digits : (decimal.coefficient : Rat) <
      10 ^ ((decimalDigits decimal.coefficient).length : Int) := by
    rw [zpow_natCast]
    exact_mod_cast lt_pow_length_decimalDigits decimal.coefficient
  rw [toRat_eq, scale, zpow_add₀ (by norm_num)]
  gcongr

theorem le_toRat {decimal : Decimal} (positive : 0 < decimal.coefficient) :
    (10 : Rat) ^ (decimal.scale - 1) ≤ decimal.toRat := by
  have nonempty := List.length_pos_iff.2 (decimalDigits_ne_nil decimal.coefficient)
  have digits : (10 : Rat) ^ (((decimalDigits decimal.coefficient).length - 1 : Nat) : Int) ≤
      decimal.coefficient := by
    rw [zpow_natCast]
    exact_mod_cast pow_length_decimalDigits_le positive
  have split : decimal.scale - 1 =
      ((decimalDigits decimal.coefficient).length - 1 : Nat) + decimal.exponent := by
    rw [scale]
    omega
  rw [toRat_eq, split, zpow_add₀ (by norm_num)]
  gcongr

/-! ## Reading -/

theorem coefficient_ne_zero {decimal : Decimal} (nonzero : nearestOrdinal decimal.toRat ≠ 0) :
    decimal.coefficient ≠ 0 := by
  intro zero
  apply nonzero
  rw [toRat_eq, zero, Nat.cast_zero, zero_mul, nearestOrdinal_zero]

theorem toBinary64_of_toRat_eq_zero {decimal : Decimal} (zero : decimal.toRat = 0)
    (negative : Bool) : toBinary64 negative decimal = .signedZero negative := by
  have power : (10 : Rat) ^ decimal.exponent ≠ 0 := zpow_ne_zero _ (by norm_num)
  rw [toRat_eq, mul_eq_zero, or_iff_left power, Nat.cast_eq_zero] at zero
  rw [toBinary64, if_pos zero]

/-- A decimal near a positive finite magnitude is read as that magnitude: it is neither so
large nor so small that its size alone decides. -/
theorem toBinary64_of_reads {ordinal : Fin magnitudeCount} (nonzero : ordinal.val ≠ 0)
    {decimal : Decimal} (reads : nearestOrdinal decimal.toRat = ordinal) (negative : Bool) :
    toBinary64 negative decimal = .finite negative ordinal := by
  have coefficient : decimal.coefficient ≠ 0 := by
    apply coefficient_ne_zero
    rwa [reads]
  have notHuge : ¬310 < decimal.scale := by
    intro huge
    have large : overflow ≤ decimal.toRat :=
      calc overflow ≤ (2 : Rat) ^ (1024 : Int) := overflow_lt.le
        _ ≤ 10 ^ (310 : Int) := by decide +kernel
        _ ≤ 10 ^ (decimal.scale - 1) := zpow_le_zpow_right₀ (by norm_num) (by omega)
        _ ≤ decimal.toRat := le_toRat (Nat.pos_of_ne_zero coefficient)
    have outside := le_nearestOrdinal large
    have inside := ordinal.isLt
    omega
  have notTiny : ¬decimal.scale < -330 := by
    intro low
    apply nonzero
    rw [← reads]
    apply nearestOrdinal_tiny
    calc 2 * decimal.toRat
        < 2 * 10 ^ decimal.scale := by
          have less := toRat_lt decimal
          linarith
      _ ≤ 2 * 10 ^ (-331 : Int) := by
          have power : (10 : Rat) ^ decimal.scale ≤ 10 ^ (-331 : Int) :=
            zpow_le_zpow_right₀ (by norm_num) (by omega)
          linarith
      _ ≤ 2 ^ (-1074 : Int) := by decide +kernel
  have inRange : nearestOrdinal decimal.toRat < magnitudeCount := by
    rw [reads]
    exact ordinal.isLt
  rw [toBinary64, if_neg coefficient, if_neg notHuge, if_neg notTiny, ofMagnitude, dif_pos inRange]
  exact congrArg (Binary64.finite negative) (Fin.ext reads)

/-! ## The shortest decimal -/

/-- The exact decimal has the value of the magnitude. -/
theorem toRat_exact (ordinal : Nat) : (exact ordinal).toRat = magnitude ordinal := by
  rw [magnitude, powerOfTwo_eq_zpow, toRat_eq, exact]
  split
  next whole =>
    obtain ⟨places, same⟩ := Int.eq_ofNat_of_zero_le whole
    rw [same]
    simp
  next fractional =>
    obtain ⟨places, same⟩ := Int.eq_ofNat_of_zero_le (show 0 ≤ -lastPlace ordinal by omega)
    obtain negated : lastPlace ordinal = -places := by omega
    have ten : (10 : Rat) ^ places = 2 ^ places * 5 ^ places := by
      rw [← mul_pow]
      norm_num
    rw [negated]
    simp only [neg_neg, Int.toNat_natCast, Nat.pow_eq, Nat.cast_mul, Nat.cast_pow, Nat.cast_ofNat,
      zpow_neg, zpow_natCast, ten]
    field_simp

/-- The shortest decimal is read as the magnitude. -/
theorem nearestOrdinal_shortest (ordinal : Nat) :
    nearestOrdinal (shortest ordinal).toRat = ordinal := by
  rw [shortest]
  cases found : (List.range 17).findSome? fun digits =>
      (neighbours (magnitude ordinal) (digits + 1)).find? (readsAs ordinal) with
  | none => rw [Option.getD_none, toRat_exact, nearestOrdinal_magnitude]
  | some decimal =>
      obtain ⟨digits, -, near⟩ := List.exists_of_findSome?_eq_some found
      have reads : readsAs ordinal decimal = true := List.find?_some near
      exact of_decide_eq_true reads

end Decimal

end VectorScene.Number
