import VectorScene.Proofs.Canvas.Large
import VectorScene.Proofs.Number.Error

/-!
# Pixels normalized and mapped back

On a canvas of at most `2⁵⁰` pixels a pixel that is normalized is mapped back to itself.  The
roundings on the way move it by less than half a pixel.
-/

namespace VectorScene.Canvas

open VectorScene.Number VectorScene.Number.Binary64

section

variable {extent position : Int} {coordinate : Binary64}

/-- Twice the part of the extent that a pixel on the canvas is away from its start. -/
theorem doubledRatio_bounds (positive : 1 ≤ extent) (low : 0 ≤ position)
    (high : position ≤ extent) :
    0 ≤ 2 * (position : Rat) / extent ∧ 2 * (position : Rat) / extent ≤ 2 := by
  have length : (0 : Rat) < extent := by exact_mod_cast positive
  have least : (0 : Rat) ≤ position := by exact_mod_cast low
  have most : (position : Rat) ≤ extent := by exact_mod_cast high
  constructor
  · positivity
  · rw [div_le_iff₀ length]
    linarith

/-- A pixel on the canvas has a normalized coordinate from -1 to 1.  It is rounded twice. -/
theorem exists_normalizedOn_near (positive : 1 ≤ extent) (low : 0 ≤ position)
    (high : position ≤ extent) :
    ∃ coordinate, normalizedOn (.integer position) (.integer extent) = .ok coordinate ∧
      coordinate.isFinite = true ∧ |coordinate.toRat| ≤ 1 ∧
      |coordinate.toRat - (2 * position / extent - 1)| ≤ 3 * (2 : Rat) ^ (-54 : Int) := by
  obtain ⟨lowest, highest⟩ := doubledRatio_bounds positive low high
  have small : 2 * (position : Rat) / extent < overflow :=
    calc 2 * (position : Rat) / extent
        ≤ 2 := highest
      _ < (2 : Rat) ^ (1023 : Int) := by
          have two : (1 : Rat) < 2 := one_lt_two
          simpa using zpow_lt_zpow_right₀ two (show (1 : Int) < 1023 by decide)
      _ ≤ overflow := le_overflow
  have ratio : doubledRatio? (.integer position) (.integer extent) =
      some (ofRat (2 * position / extent)) :=
    ofRat?_eq_some (by rwa [abs_of_nonneg lowest])
  rw [normalizedOn, ratio]
  generalize 2 * (position : Rat) / extent = exact at lowest highest small ⊢
  have quotient : Rounds (ofRat exact) exact 1 :=
    rounds_ofRat (by decide) (by decide) (by rwa [abs_of_nonneg lowest, zpow_one])
  have nonnegative := toRat_ofRat_nonneg lowest small
  have atMost := (abs_le.1 quotient.small).2
  rw [zpow_one] at atMost
  have difference : Rounds (ofRat exact - one) ((ofRat exact).toRat - 1) 0 := by
    refine rounds_sub_one (by decide) (by decide) quotient.finite ?_
    rw [zpow_zero, abs_le]
    constructor <;> linarith
  refine ⟨_, rfl, difference.finite, by simpa using difference.small, ?_⟩
  calc |(ofRat exact - one).toRat - (exact - 1)|
      = |(ofRat exact - one).toRat - ((ofRat exact).toRat - 1) +
          ((ofRat exact).toRat - exact)| := by
        congr 1
        ring
    _ ≤ (2 : Rat) ^ (0 - 54 : Int) + (2 : Rat) ^ (1 - 54 : Int) :=
        (abs_add_le _ _).trans (add_le_add difference.near quotient.near)
    _ = 3 * (2 : Rat) ^ (-54 : Int) := by norm_num

/-- The position of a coordinate from -1 to 1 as a part of the extent.  It is rounded twice. -/
theorem fraction_near (finite : coordinate.isFinite = true) (inside : |coordinate.toRat| ≤ 1) :
    ((coordinate + one) / two).isFinite = true ∧ |((coordinate + one) / two).toRat| ≤ 1 ∧
      |((coordinate + one) / two).toRat - (coordinate.toRat + 1) / 2| ≤
        (2 : Rat) ^ (-53 : Int) := by
  obtain ⟨least, greatest⟩ := abs_le.1 inside
  have sum : Rounds (coordinate + one) (coordinate.toRat + 1) 1 := by
    refine rounds_add_one (by decide) (by decide) finite ?_
    rw [zpow_one, abs_le]
    constructor <;> linarith
  have half : Rounds ((coordinate + one) / two) ((coordinate + one).toRat / 2) 0 := by
    refine rounds_div_two (by decide) (by decide) sum.finite ?_
    have small := sum.small
    rw [zpow_one] at small
    rw [zpow_zero, abs_div, abs_two]
    linarith
  refine ⟨half.finite, by simpa using half.small, ?_⟩
  have halved : |((coordinate + one).toRat - (coordinate.toRat + 1)) / 2| ≤
      (2 : Rat) ^ (1 - 54 : Int) / 2 := by
    rw [abs_div, abs_two]
    exact div_le_div_of_nonneg_right sum.near zero_le_two
  calc |((coordinate + one) / two).toRat - (coordinate.toRat + 1) / 2|
      = |((coordinate + one) / two).toRat - (coordinate + one).toRat / 2 +
          ((coordinate + one).toRat - (coordinate.toRat + 1)) / 2| := by
        congr 1
        ring
    _ ≤ (2 : Rat) ^ (0 - 54 : Int) + (2 : Rat) ^ (1 - 54 : Int) / 2 :=
        (abs_add_le _ _).trans (add_le_add half.near halved)
    _ = (2 : Rat) ^ (-53 : Int) := by norm_num

section

variable (positive : 1 ≤ extent) (wide : extent ≤ 2 ^ 50)

include positive wide

theorem extent_bounds : (0 : Rat) < extent ∧ (extent : Rat) ≤ 2 ^ (50 : Int) := by
  have power : (2 : Rat) ^ (50 : Int) = ((2 ^ 50 : Int) : Rat) := by norm_num
  rw [power]
  exact ⟨by exact_mod_cast positive, by exact_mod_cast wide⟩

/-- The position of a coordinate from -1 to 1 on the canvas, before it is rounded to a pixel. -/
theorem exists_binaryPixel?_near (finite : coordinate.isFinite = true)
    (inside : |coordinate.toRat| ≤ 1) :
    ∃ image, binaryPixel? (.real coordinate) (.integer extent) = some image ∧
      image.isFinite = true ∧
      |image.toRat - extent * ((coordinate.toRat + 1) / 2)| ≤ 3 * (2 : Rat) ^ (-4 : Int) := by
  obtain ⟨length, most⟩ := extent_bounds positive wide
  obtain ⟨finiteFraction, small, near⟩ := fraction_near finite inside
  have few : |extent| ≤ 2 ^ 53 := abs_le.2 ⟨by omega, by omega⟩
  obtain ⟨below, exact⟩ := toRat_ofRat_intCast few
  have product : Rounds (ofRat extent * ((coordinate + one) / two))
      ((ofRat extent).toRat * ((coordinate + one) / two).toRat) 50 := by
    refine rounds_mul (by decide) (by decide) ((isFinite_ofRat _).2 below) finiteFraction ?_
    rw [exact, abs_mul, abs_of_pos length]
    exact (mul_le_of_le_one_right length.le small).trans most
  rw [exact] at product
  refine ⟨_, binaryPixel?_real positive (by omega) coordinate, product.finite, ?_⟩
  generalize ofRat extent * ((coordinate + one) / two) = image at product ⊢
  generalize (coordinate + one) / two = fraction at product near
  have stretched : |extent * (fraction.toRat - (coordinate.toRat + 1) / 2)| ≤
      (2 : Rat) ^ (50 : Int) * (2 : Rat) ^ (-53 : Int) := by
    rw [abs_mul, abs_of_pos length]
    gcongr
  calc |image.toRat - extent * ((coordinate.toRat + 1) / 2)|
      = |image.toRat - extent * fraction.toRat +
          extent * (fraction.toRat - (coordinate.toRat + 1) / 2)| := by
        congr 1
        ring
    _ ≤ (2 : Rat) ^ (50 - 54 : Int) + (2 : Rat) ^ (50 : Int) * (2 : Rat) ^ (-53 : Int) :=
        (abs_add_le _ _).trans (add_le_add product.near stretched)
    _ = 3 * (2 : Rat) ^ (-4 : Int) := by norm_num

/-- A pixel on the canvas is the pixel of its normalized coordinate. -/
theorem exists_normalizedOn_pixel (low : 0 ≤ position) (high : position ≤ extent) :
    ∃ coordinate, normalizedOn (.integer position) (.integer extent) = .ok coordinate ∧
      pixel (.real coordinate) (.integer extent) = .ok position := by
  obtain ⟨length, most⟩ := extent_bounds positive wide
  obtain ⟨coordinate, normalized, finite, inside, near⟩ :=
    exists_normalizedOn_near positive low high
  obtain ⟨image, binary, finiteImage, close⟩ :=
    exists_binaryPixel?_near positive wide finite inside
  refine ⟨coordinate, normalized, ?_⟩
  rw [pixel_of_finite binary finiteImage]
  have exact : (extent : Rat) * ((2 * position / extent - 1 + 1) / 2) = position := by
    field_simp
    ring
  generalize 2 * (position : Rat) / extent = ratio at near exact
  have stretched : |extent * ((coordinate.toRat - (ratio - 1)) / 2)| ≤
      (2 : Rat) ^ (50 : Int) * (3 * (2 : Rat) ^ (-54 : Int) / 2) := by
    rw [abs_mul, abs_of_pos length, abs_div, abs_two]
    gcongr
  have apart : |image.toRat - position| ≤ 9 * (2 : Rat) ^ (-5 : Int) :=
    calc |image.toRat - position|
        = |image.toRat - extent * ((coordinate.toRat + 1) / 2) +
            extent * ((coordinate.toRat - (ratio - 1)) / 2)| := by
          congr 1
          rw [← exact]
          ring
      _ ≤ 3 * (2 : Rat) ^ (-4 : Int) +
            (2 : Rat) ^ (50 : Int) * (3 * (2 : Rat) ^ (-54 : Int) / 2) :=
          (abs_add_le _ _).trans (add_le_add close stretched)
      _ = 9 * (2 : Rat) ^ (-5 : Int) := by norm_num
  -- `9 / 32` is less than a half, so that no other pixel is as near.
  obtain ⟨lower, upper⟩ := abs_le.1 apart
  norm_num at lower upper
  refine congrArg Except.ok (le_antisymm (nearestEven_le ?_) (le_nearestEven ?_))
  · linarith
  · linarith

end

end

end VectorScene.Canvas
