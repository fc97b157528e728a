import VectorScene.Proofs.Canvas.Pixel

/-!
# Pixels beyond binary64 arithmetic

Every finite coordinate has a pixel on every positive extent.  Where binary64 arithmetic
cannot hold the computation, the pixel is the integer nearest to the exact position, so that
such pixels are in the order of their coordinates.
-/

namespace VectorScene.Canvas

open VectorScene.Number VectorScene.Number.Binary64

/-- An integer nearest to a rational, and of two such integers the even one. -/
structure IsNearest (position : Int) (value : Rat) : Prop where
  near : |2 * position - 2 * value| ≤ 1
  even : |2 * position - 2 * value| = 1 → Even position

theorem isNearest_nearestEven (value : Rat) : IsNearest (nearestEven value) value := by
  have double : (2 * nearestEven value - 2 * value : Rat) = 2 * (nearestEven value - value) := by
    ring
  constructor
  · rw [double]
    exact abs_le.2 (nearestEven_bounds value)
  · intro tie
    apply even_nearestEven
    rw [← double]
    exact tie

/-- Binary64 arithmetic cannot hold the pixel of a coordinate: an integer is too large for it,
or the product is not finite. -/
def Overflows (coordinate extent : Number) : Prop :=
  ∀ image ∈ binaryPixel? coordinate extent, image.isFinite = false

section

variable {coordinate : Number} {value : Rat} {extent : Int}

/-- Integers of any size and finite real numbers have a value. -/
theorem hasValue_of_isFinite
    (finite : ∀ real, coordinate = .real real → real.isFinite = true) : HasValue coordinate := by
  cases coordinate with
  | integer value => exact ⟨value, rfl⟩
  | real real =>
      obtain ⟨sign, place, rfl⟩ := exists_of_isFinite (finite real rfl)
      exact ⟨_, rfl⟩

/-- A product that is finite is rounded to an integer. -/
theorem pixel_of_finite {length : Number} {image : Binary64}
    (product : binaryPixel? coordinate length = some image) (finite : image.isFinite = true) :
    pixel coordinate length = .ok (nearestEven image.toRat) := by
  obtain ⟨sign, place, rfl⟩ := exists_of_isFinite finite
  rw [pixel, product]
  rfl

/-- Beyond binary64 arithmetic the exact position is rounded. -/
theorem pixel_of_overflows (finite : exactValue coordinate = .ok value)
    (overflows : Overflows coordinate (.integer extent)) :
    pixel coordinate (.integer extent) = .ok (nearestEven (extent * (value + 1) / 2)) := by
  have exact : exactPixel coordinate (.integer extent) =
      .ok (nearestEven ((value + 1) / 2 * extent)) := by
    rw [exactPixel, finite]
    rfl
  have same : (value + 1) / 2 * extent = extent * (value + 1) / 2 := by ring
  rw [pixel]
  split
  next sign place product => cases overflows _ product
  next => rw [exact, same]

/-- Pixels beyond binary64 arithmetic are in the order of their coordinates. -/
theorem pixel_mono {first second : Number} {firstValue secondValue : Rat} {left right : Int}
    (nonnegative : 0 ≤ extent) (ordered : firstValue ≤ secondValue)
    (finiteFirst : exactValue first = .ok firstValue)
    (finiteSecond : exactValue second = .ok secondValue)
    (overflowsFirst : Overflows first (.integer extent))
    (overflowsSecond : Overflows second (.integer extent))
    (mapsFirst : pixel first (.integer extent) = .ok left)
    (mapsSecond : pixel second (.integer extent) = .ok right) : left ≤ right := by
  rw [pixel_of_overflows finiteFirst overflowsFirst] at mapsFirst
  rw [pixel_of_overflows finiteSecond overflowsSecond] at mapsSecond
  cases mapsFirst
  cases mapsSecond
  apply nearestEven_mono
  have length : (0 : Rat) ≤ extent := by exact_mod_cast nonnegative
  gcongr

end

/-- Every finite coordinate has a pixel on a positive extent of any size.  It is the integer
nearest to the product in binary64 arithmetic if that is finite, and otherwise the integer
nearest to the exact position.  The exact pixels keep the order of the coordinates. -/
theorem pixel_total {extent : Int} (positive : 0 < extent) :
    (∀ coordinate, (∀ real, coordinate = .real real → real.isFinite = true) →
      ∃ value position, exactValue coordinate = .ok value ∧
        pixel coordinate (.integer extent) = .ok position ∧
        (∀ image ∈ binaryPixel? coordinate (.integer extent), image.isFinite = true →
          IsNearest position image.toRat) ∧
        (Overflows coordinate (.integer extent) →
          IsNearest position (extent * (value + 1) / 2))) ∧
      ∀ first second firstValue secondValue left right,
        exactValue first = .ok firstValue → exactValue second = .ok secondValue →
        Overflows first (.integer extent) → Overflows second (.integer extent) →
        pixel first (.integer extent) = .ok left → pixel second (.integer extent) = .ok right →
        firstValue ≤ secondValue → left ≤ right := by
  constructor
  · intro coordinate finite
    obtain ⟨value, exact⟩ := hasValue_of_isFinite finite
    obtain ⟨position, mapped⟩ := exists_pixel ⟨value, exact⟩ extent
    refine ⟨value, position, exact, mapped, ?_, ?_⟩
    · intro image product inRange
      rw [pixel_of_finite product inRange] at mapped
      cases mapped
      exact isNearest_nearestEven _
    · intro overflows
      rw [pixel_of_overflows exact overflows] at mapped
      cases mapped
      exact isNearest_nearestEven _
  · intro first second firstValue secondValue left right finiteFirst finiteSecond overflowsFirst
      overflowsSecond mapsFirst mapsSecond ordered
    exact pixel_mono positive.le ordered finiteFirst finiteSecond overflowsFirst overflowsSecond
      mapsFirst mapsSecond

/-- The largest finite value. -/
def largest : Binary64 :=
  .finite false ⟨magnitudeCount - 1, by decide⟩

/-- On an extent of three the largest finite value and a larger integer both lie in the middle
of two pixels. -/
theorem pixel_total_ties :
    Overflows (.real largest) (.integer 3) ∧ Overflows (.integer (2 ^ 1100)) (.integer 3) ∧
      pixel (.real largest) (.integer 3) = .ok (3 * (2 ^ 1023 - 2 ^ 970) + 2) ∧
      IsNearest (3 * (2 ^ 1023 - 2 ^ 970) + 2) ((3 : Int) * (largest.toRat + 1) / 2) ∧
      pixel (.integer (2 ^ 1100)) (.integer 3) = .ok (3 * 2 ^ 1099 + 2) ∧
      (3 * (2 ^ 1023 - 2 ^ 970) + 2 : Int) ≤ 3 * 2 ^ 1099 + 2 := by
  have overflowsLeft : Overflows (.real largest) (.integer 3) := by
    have product : binaryPixel? (.real largest) (.integer 3) = some (.infinity false) := by
      decide +kernel
    intro image member
    rw [product] at member
    cases member
    rfl
  have overflowsRight : Overflows (.integer (2 ^ 1100)) (.integer 3) := by
    have product : binaryPixel? (.integer (2 ^ 1100)) (.integer 3) = none := by
      decide +kernel
    intro image member
    rw [product] at member
    cases member
  have mapsLeft : pixel (.real largest) (.integer 3) = .ok (3 * (2 ^ 1023 - 2 ^ 970) + 2) := by
    decide +kernel
  have mapsRight : pixel (.integer (2 ^ 1100)) (.integer 3) = .ok (3 * 2 ^ 1099 + 2) := by
    decide +kernel
  have ordered : largest.toRat ≤ ((2 ^ 1100 : Int) : Rat) := by decide +kernel
  obtain ⟨total, mono⟩ := pixel_total (show (0 : Int) < 3 by decide)
  obtain ⟨value, position, exact, mapped, -, nearest⟩ :=
    total (.real largest) fun real same => Number.real.inj same ▸ rfl
  have same : position = 3 * (2 ^ 1023 - 2 ^ 970) + 2 := Except.ok.inj (mapped.symm.trans mapsLeft)
  rw [same, ← Except.ok.inj exact] at nearest
  exact ⟨overflowsLeft, overflowsRight, mapsLeft, nearest overflowsLeft, mapsRight,
    mono _ _ _ _ _ _ rfl rfl overflowsLeft overflowsRight mapsLeft mapsRight ordered⟩

end VectorScene.Canvas
