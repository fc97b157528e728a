import Mathlib.Algebra.Order.Field.Power
import Mathlib.Data.Rat.Cast.Order
import Mathlib.Tactic.FieldSimp
import Mathlib.Tactic.GCongr
import Mathlib.Tactic.Linarith
import Mathlib.Tactic.NormNum
import Mathlib.Tactic.Positivity
import Mathlib.Tactic.Ring
import VectorScene.Number.Literal

/-!
# The range of binary64 numbers

The value nearest to a rational is finite exactly below a bound, which is half a
unit of the last place above the largest finite magnitude.
-/

namespace VectorScene.Number

/-! ## Rounding -/

/-- The nearest integer in terms of rationals. -/
theorem nearestEven_bounds (value : Rat) :
    -1 ≤ 2 * (nearestEven value - value) ∧ 2 * (nearestEven value - value) ≤ 1 := by
  have positive : (0 : Rat) < value.den := by exact_mod_cast value.den_pos
  have quotient : value * value.den = value.num := Rat.mul_den_eq_num value
  obtain ⟨low, high⟩ := nearestEven_near value
  have lower : -(value.den : Rat) ≤ 2 * value.den * nearestEven value - 2 * value.num := by
    exact_mod_cast low
  have upper : 2 * value.den * nearestEven value - 2 * value.num ≤ (value.den : Rat) := by
    exact_mod_cast high
  rw [← quotient] at lower upper
  constructor
  · refine le_of_mul_le_mul_right ?_ positive
    linarith
  · refine le_of_mul_le_mul_right ?_ positive
    linarith

/-- A rational below the middle of two integers is not rounded to the upper one. -/
theorem nearestEven_le {value : Rat} {bound : Int} (below : 2 * value < 2 * bound + 1) :
    nearestEven value ≤ bound := by
  have near := (nearestEven_bounds value).2
  have strict : (nearestEven value : Rat) < bound + 1 := by linarith
  exact Int.lt_add_one_iff.1 (by exact_mod_cast strict)

/-- A rational above the middle of two integers is not rounded to the lower one. -/
theorem le_nearestEven {value : Rat} {bound : Int} (above : 2 * bound - 1 < 2 * value) :
    bound ≤ nearestEven value := by
  have near := (nearestEven_bounds value).1
  have strict : (bound : Rat) - 1 < nearestEven value := by linarith
  exact Int.sub_one_lt_iff.1 (by exact_mod_cast strict)

/-- Of two integers that are equally near the even one is taken. -/
theorem even_nearestEven {value : Rat} (tie : |2 * (nearestEven value - value)| = 1) :
    Even (nearestEven value) := by
  have positive : (0 : Int) < value.den := by exact_mod_cast value.den_pos
  have nonzero : (value.den : Rat) ≠ 0 := by exact_mod_cast value.den_nz
  have quotient : value * value.den = value.num := Rat.mul_den_eq_num value
  have units : 2 * value.den * nearestEven value - 2 * value.num = (value.den : Int) ∨
      2 * value.den * nearestEven value - 2 * value.num = -(value.den : Int) := by
    have distance : (2 * value.den * nearestEven value - 2 * value.num : Rat) =
        2 * (nearestEven value - value) * value.den := by
      rw [← quotient]
      ring
    have cast : |(2 * value.den * nearestEven value - 2 * value.num : Rat)| = value.den := by
      rw [distance, abs_mul, tie, one_mul, Nat.abs_cast]
    exact (abs_eq positive.le).1 (by exact_mod_cast cast)
  have split := Int.mul_ediv_add_emod value.num value.den
  have low := Int.emod_nonneg value.num positive.ne'
  have high := Int.emod_lt_of_pos value.num positive
  rw [Int.even_iff]
  unfold nearestEven at units ⊢
  dsimp only at units ⊢
  -- Only the third and the fourth case are ties.
  generalize value.num / value.den = below at units split ⊢
  generalize value.num % value.den = remainder at units split low high ⊢
  have product : 2 * (value.den : Int) * below = 2 * (value.den * below) := by ring
  have above : 2 * (value.den : Int) * (below + 1) = 2 * (value.den * below) + 2 * value.den := by
    ring
  split at units
  next less =>
    rw [product] at units
    omega
  next notLess =>
    rw [if_neg notLess]
    split at units
    next more =>
      rw [above] at units
      omega
    next notMore =>
      rw [if_neg notMore]
      split <;> omega

/-- Rounding keeps the order. -/
theorem nearestEven_mono {first second : Rat} (ordered : first ≤ second) :
    nearestEven first ≤ nearestEven second := by
  rcases ordered.eq_or_lt with rfl | less
  · exact le_rfl
  · have above := (nearestEven_bounds first).2
    have below := (nearestEven_bounds second).1
    have strict : (nearestEven first : Rat) < nearestEven second + 1 := by linarith
    exact Int.lt_add_one_iff.1 (by exact_mod_cast strict)

/-! ## Binary logarithms -/

theorem powerOfTwo_eq_zpow (exponent : Int) : powerOfTwo exponent = (2 : Rat) ^ exponent := by
  rw [powerOfTwo]
  split
  next nonnegative =>
    obtain ⟨power, rfl⟩ := Int.eq_ofNat_of_zero_le nonnegative
    simp
  next negative =>
    obtain ⟨power, same⟩ := Int.eq_ofNat_of_zero_le (show 0 ≤ -exponent by omega)
    obtain rfl : exponent = -power := by omega
    simp [Rat.mkRat_eq_div]

namespace Binary64

theorem log2_bounds {number : Nat} (nonzero : number ≠ 0) :
    (2 : Rat) ^ (number.log2 : Int) ≤ number ∧ (number : Rat) < 2 ^ ((number.log2 : Int) + 1) := by
  constructor
  · rw [zpow_natCast]
    exact_mod_cast Nat.log2_self_le nonzero
  · exact_mod_cast Nat.lt_log2_self

/-- The binary logarithm of a quotient is known up to one from those of its parts. -/
theorem binaryLog_spec {value : Rat} (positive : 0 < value) :
    (2 : Rat) ^ binaryLog value ≤ value ∧ value < (2 : Rat) ^ (binaryLog value + 1) := by
  have above : (0 : Rat) < value.den := by exact_mod_cast value.den_pos
  have numerator : (value.num.natAbs : Rat) = value * value.den := by
    rw [Rat.mul_den_eq_num]
    have whole := Int.natAbs_of_nonneg (Rat.num_nonneg.2 positive.le)
    exact (Int.cast_natCast _).symm.trans (congrArg Int.cast whole)
  have nonzero : value.num.natAbs ≠ 0 := by
    intro zero
    rw [zero, Nat.cast_zero] at numerator
    exact (mul_pos positive above).ne numerator
  obtain ⟨lowNumerator, highNumerator⟩ := log2_bounds nonzero
  obtain ⟨lowDenominator, highDenominator⟩ := log2_bounds value.den_nz
  rw [numerator] at lowNumerator highNumerator
  rw [binaryLog]
  simp only [powerOfTwo_eq_zpow]
  split
  next fits =>
    refine ⟨fits, lt_of_mul_lt_mul_right ?_ above.le⟩
    calc value * value.den
        < (2 : Rat) ^ ((value.num.natAbs.log2 : Int) + 1) := highNumerator
      _ = (2 : Rat) ^ ((value.num.natAbs.log2 : Int) - value.den.log2 + 1) *
            (2 : Rat) ^ (value.den.log2 : Int) := by
          rw [← zpow_add₀ two_ne_zero]
          ring_nf
      _ ≤ (2 : Rat) ^ ((value.num.natAbs.log2 : Int) - value.den.log2 + 1) * value.den := by
          gcongr
  next exceeds =>
    refine ⟨le_of_mul_le_mul_right ?_ above, by simpa using exceeds⟩
    calc (2 : Rat) ^ ((value.num.natAbs.log2 : Int) - value.den.log2 - 1) * value.den
        ≤ (2 : Rat) ^ ((value.num.natAbs.log2 : Int) - value.den.log2 - 1) *
            (2 : Rat) ^ ((value.den.log2 : Int) + 1) := by
          gcongr
      _ = (2 : Rat) ^ (value.num.natAbs.log2 : Int) := by
          rw [← zpow_add₀ two_ne_zero]
          ring_nf
      _ ≤ value * value.den := lowNumerator

/-! ## Finite values -/

/-- The least magnitude that is rounded to an infinity. -/
def overflow : Rat :=
  2 ^ 1024 - 2 ^ 970

/-- A magnitude in units of its last place. -/
def scaled (value : Rat) : Rat :=
  value / (2 : Rat) ^ placeAt value

theorem nearestEven_scaled_nonneg {value : Rat} (positive : 0 < value) :
    0 ≤ nearestEven (scaled value) := by
  have scaledPositive : 0 < scaled value := by
    rw [scaled]
    positivity
  refine le_nearestEven ?_
  push_cast
  linarith

theorem nearestOrdinal_eq {value : Rat} (positive : 0 < value) :
    (nearestOrdinal value : Int) =
      (placeAt value + 1074) * 2 ^ 52 + nearestEven (scaled value) := by
  have place : -1074 ≤ placeAt value := le_max_right _ _
  have nonnegative := nearestEven_scaled_nonneg positive
  have units : value / powerOfTwo (placeAt value) = scaled value := by
    rw [scaled, powerOfTwo_eq_zpow]
  rw [nearestOrdinal, if_neg (not_le.2 positive)]
  simp only [units, Nat.cast_add, Nat.cast_mul, Int.toNat_of_nonneg nonnegative,
    Int.toNat_of_nonneg (show 0 ≤ placeAt value + 1074 by omega)]
  rfl

/-- A magnitude is less than `2⁵³` units of its last place. -/
theorem scaled_lt {value : Rat} (positive : 0 < value) : scaled value < 2 ^ 53 := by
  have place : binaryLog value - 52 ≤ placeAt value := le_max_left _ _
  rw [scaled, div_lt_iff₀ (by positivity)]
  calc value
      < (2 : Rat) ^ (binaryLog value + 1) := (binaryLog_spec positive).2
    _ ≤ (2 : Rat) ^ (53 + placeAt value) := zpow_le_zpow_right₀ one_le_two (by omega)
    _ = 2 ^ 53 * (2 : Rat) ^ placeAt value := by
        rw [zpow_add₀ two_ne_zero]
        norm_num

/-- A magnitude of a place above the least one is at least `2⁵²` units of its last
place. -/
theorem le_scaled {value : Rat} (positive : 0 < value) (normal : -1074 < placeAt value) :
    2 ^ 52 ≤ scaled value := by
  have place : placeAt value = binaryLog value - 52 := by
    rw [placeAt] at normal ⊢
    omega
  rw [scaled, le_div_iff₀ (by positivity), place]
  calc (2 : Rat) ^ 52 * 2 ^ (binaryLog value - 52)
      = 2 ^ binaryLog value := by
        rw [← zpow_natCast, ← zpow_add₀ two_ne_zero]
        norm_num
    _ ≤ value := (binaryLog_spec positive).1

/-- The nearest whole number of units has at most one digit more. -/
theorem nearestEven_scaled_le {value : Rat} (positive : 0 < value) :
    nearestEven (scaled value) ≤ 2 ^ 53 := by
  have upper := scaled_lt positive
  refine nearestEven_le ?_
  push_cast
  linarith

theorem le_nearestEven_scaled {value : Rat} (positive : 0 < value)
    (normal : -1074 < placeAt value) : 2 ^ 52 ≤ nearestEven (scaled value) := by
  have lower := le_scaled positive normal
  refine le_nearestEven ?_
  push_cast
  linarith

theorem placeAt_le {value : Rat} {exponent : Int} (positive : 0 < value)
    (small : value < (2 : Rat) ^ exponent) (normal : -1021 ≤ exponent) :
    placeAt value ≤ exponent - 53 := by
  have power := lt_of_le_of_lt (binaryLog_spec positive).1 small
  have smaller := (zpow_lt_zpow_iff_right₀ one_lt_two).1 power
  rw [placeAt]
  omega

theorem le_placeAt {value : Rat} {exponent : Int} (large : (2 : Rat) ^ exponent ≤ value) :
    exponent - 52 ≤ placeAt value := by
  have positive : 0 < value := lt_of_lt_of_le (by positivity) large
  have power := lt_of_le_of_lt large (binaryLog_spec positive).2
  have larger := (zpow_lt_zpow_iff_right₀ one_lt_two).1 power
  rw [placeAt]
  omega

theorem overflow_eq : overflow = (2 ^ 53 - 1 / 2) * (2 : Rat) ^ (971 : Int) := by
  rw [overflow, sub_mul, ← zpow_natCast, ← zpow_natCast, ← zpow_natCast, ← zpow_add₀ two_ne_zero]
  rw [show (1 : Rat) / 2 = 2 ^ (-1 : Int) by norm_num, ← zpow_add₀ two_ne_zero]
  norm_num

theorem le_overflow : (2 : Rat) ^ (1023 : Int) ≤ overflow := by
  have least : (2 : Rat) ^ (1023 : Int) = 2 ^ 52 * (2 : Rat) ^ (971 : Int) := by
    rw [← zpow_natCast, ← zpow_add₀ two_ne_zero]
    norm_num
  rw [least, overflow_eq]
  gcongr
  norm_num

theorem overflow_lt : overflow < (2 : Rat) ^ (1024 : Int) := by
  have whole : (2 : Rat) ^ (1024 : Int) = 2 ^ 1024 := zpow_natCast 2 1024
  rw [overflow, whole]
  exact sub_lt_self _ (by positivity)

/-- Half a unit below the first magnitude of a new exponent is rounded up. -/
theorem le_nearestEven_of_half {value : Rat} (half : 2 ^ 53 - 1 / 2 ≤ value) :
    2 ^ 53 ≤ nearestEven value := by
  rcases eq_or_lt_of_le half with same | above
  · rw [← same]
    decide +kernel
  · refine le_nearestEven ?_
    push_cast
    linarith

theorem magnitudeCount_eq : (magnitudeCount : Int) = 2047 * 2 ^ 52 := rfl

/-- A magnitude below the bound is rounded to a finite one. -/
theorem nearestOrdinal_lt {value : Rat} (positive : 0 < value) (below : value < overflow) :
    nearestOrdinal value < magnitudeCount := by
  have ordinal := nearestOrdinal_eq positive
  have count := magnitudeCount_eq
  rcases lt_or_ge value ((2 : Rat) ^ (1023 : Int)) with small | large
  · have place := placeAt_le positive small (by decide)
    have rounded := nearestEven_scaled_le positive
    omega
  · have place : placeAt value = 971 := by
      have least := placeAt_le positive (below.trans overflow_lt) (by decide)
      have greatest := le_placeAt large
      omega
    have rounded : nearestEven (scaled value) ≤ 2 ^ 53 - 1 := by
      refine nearestEven_le ?_
      have short : scaled value < 2 ^ 53 - 1 / 2 := by
        rw [scaled, place, div_lt_iff₀ (by positivity), ← overflow_eq]
        exact below
      push_cast
      linarith
    rw [place] at ordinal
    omega

/-- A magnitude from the bound on is not. -/
theorem le_nearestOrdinal {value : Rat} (large : overflow ≤ value) :
    magnitudeCount ≤ nearestOrdinal value := by
  have atLeast := le_trans le_overflow large
  have positive : 0 < value := lt_of_lt_of_le (by positivity) atLeast
  have ordinal := nearestOrdinal_eq positive
  have count := magnitudeCount_eq
  rcases lt_or_ge value ((2 : Rat) ^ (1024 : Int)) with small | huge
  · have place : placeAt value = 971 := by
      have least := placeAt_le positive small (by decide)
      have greatest := le_placeAt atLeast
      omega
    have rounded : 2 ^ 53 ≤ nearestEven (scaled value) := by
      apply le_nearestEven_of_half
      rw [scaled, place, le_div_iff₀ (by positivity), ← overflow_eq]
      exact large
    rw [place] at ordinal
    omega
  · have place := le_placeAt huge
    have rounded := le_nearestEven_scaled positive (by omega)
    omega

/-- A magnitude is rounded to a finite one exactly when it is below the bound. -/
theorem nearestOrdinal_lt_iff {value : Rat} :
    nearestOrdinal value < magnitudeCount ↔ value < overflow := by
  constructor
  · contrapose!
    exact le_nearestOrdinal
  · intro below
    rcases le_or_gt value 0 with atMostZero | positive
    · rw [nearestOrdinal, if_pos atMostZero]
      decide
    · exact nearestOrdinal_lt positive below

theorem isFinite_ofMagnitude (negative : Bool) (value : Rat) :
    (ofMagnitude negative value).isFinite = true ↔ value < overflow := by
  rw [← nearestOrdinal_lt_iff, ofMagnitude]
  split
  next inRange => exact iff_of_true rfl inRange
  next outside => exact iff_of_false Bool.false_ne_true outside

/-- The value nearest to a rational is finite exactly below the bound. -/
theorem isFinite_ofRat (value : Rat) : (ofRat value).isFinite = true ↔ |value| < overflow := by
  rw [ofRat]
  split
  next negative => rw [isFinite_ofMagnitude, abs_of_neg negative]
  next nonnegative => rw [isFinite_ofMagnitude, abs_of_nonneg (not_lt.1 nonnegative)]

theorem ofRat?_eq_none {value : Rat} (large : overflow ≤ |value|) : ofRat? value = none := by
  have infinite : ¬(ofRat value).isFinite = true := fun finite =>
    (not_lt.2 large) ((isFinite_ofRat value).1 finite)
  rw [ofRat?]
  exact if_neg infinite

theorem ofRat?_eq_some {value : Rat} (small : |value| < overflow) :
    ofRat? value = some (ofRat value) := by
  rw [ofRat?]
  exact if_pos ((isFinite_ofRat value).2 small)

theorem ofMagnitude_eq_finite {value : Rat} (small : value < overflow) (negative : Bool) :
    ofMagnitude negative value =
      .finite negative ⟨nearestOrdinal value, nearestOrdinal_lt_iff.2 small⟩ :=
  dif_pos (nearestOrdinal_lt_iff.2 small)

theorem ofRat_eq_finite {value : Rat} (nonnegative : 0 ≤ value) (small : value < overflow) :
    ofRat value = .finite false ⟨nearestOrdinal value, nearestOrdinal_lt_iff.2 small⟩ := by
  rw [ofRat, if_neg (not_lt.2 nonnegative), ofMagnitude_eq_finite small]

end Binary64

/-- An integer is finite exactly below the bound. -/
theorem isFinite_integer (value : Int) :
    (Number.integer value).isFinite = true ↔ |value| < 2 ^ 1024 - 2 ^ 970 := by
  have exact : ((2 ^ 1024 - 2 ^ 970 : Int) : Rat) = Binary64.overflow := by
    rw [Int.cast_sub, Int.cast_pow, Int.cast_pow]
    rfl
  rw [isFinite, Binary64.isFinite_ofRat, ← exact, ← Int.cast_abs, Int.cast_lt]

end VectorScene.Number
