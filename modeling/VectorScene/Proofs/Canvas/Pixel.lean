import VectorScene.Canvas.Vertices
import VectorScene.Proofs.Number.Exact
import VectorScene.Proofs.Run

/-!
# Pixels of rounded coordinates

Every finite coordinate has a pixel on an integer extent.  A coordinate that is exactly a
binary64 number has the pixel of that number, though the two are computed in different
ways.
-/

namespace VectorScene.Canvas

open VectorScene.Number VectorScene.Number.Binary64

/-- A coordinate with a finite value. -/
def HasValue (coordinate : Number) : Prop :=
  ∃ value, exactValue coordinate = .ok value

/-- The binary64 value nearest to a number. -/
def nearest : Number → Binary64
  | .integer value => .ofRat value
  | .real value => value

/-- A number that its nearest binary64 number is equal to. -/
def IsExact (coordinate : Number) : Prop :=
  exactValue (.real (nearest coordinate)) = exactValue coordinate

/-- Every real number is exact. -/
theorem isExact_real (value : Binary64) : IsExact (.real value) := rfl

/-- So is an integer of at most `2⁵³`. -/
theorem isExact_integer {value : Int} (small : |value| ≤ 2 ^ 53) : IsExact (.integer value) := by
  obtain ⟨below, same⟩ := toRat_ofRat_intCast small
  rw [ofRat_eq_ofMagnitude, ofMagnitude_eq_finite below] at same
  rw [IsExact, nearest, ofRat_eq_ofMagnitude, ofMagnitude_eq_finite below]
  exact congrArg Except.ok same

/-! ## Single coordinates -/

/-- Every coordinate with a value has a pixel. -/
theorem exists_pixel {coordinate : Number} (finite : HasValue coordinate) (extent : Int) :
    ∃ position, pixel coordinate (.integer extent) = .ok position := by
  obtain ⟨value, same⟩ := finite
  have exact : exactPixel coordinate (.integer extent) =
      .ok (nearestEven ((value + 1) / 2 * extent)) := by
    rw [exactPixel, same]
    rfl
  rw [pixel]
  split
  next => exact ⟨_, rfl⟩
  next => exact ⟨_, exact⟩

/-- The binary64 number of an exact integer. -/
theorem IsExact.exists_finite {value : Int} (exact : IsExact (.integer value)) :
    ∃ negative ordinal, ofRat value = .finite negative ordinal ∧
      (Binary64.finite negative ordinal).toRat = value := by
  rw [IsExact, nearest] at exact
  cases rounded : ofRat value with
  | finite negative ordinal =>
      rw [rounded] at exact
      exact ⟨negative, ordinal, rfl, Except.ok.inj exact⟩
  | infinity negative =>
      rw [rounded] at exact
      cases exact
  | nan =>
      rw [rounded] at exact
      cases exact

/-- The fraction of an exact coordinate is that of its binary64 number. -/
theorem fraction?_nearest {coordinate : Number} (exact : IsExact coordinate) :
    fraction? (.real (nearest coordinate)) = fraction? coordinate := by
  cases coordinate with
  | real value => rfl
  | integer value =>
      obtain ⟨negative, ordinal, rounded, same⟩ := exact.exists_finite
      have below := abs_toRat_add_one_lt negative ordinal
      rw [same] at below
      have whole : (value : Rat) + 1 = 0 ∨ 1 ≤ |(value : Rat) + 1| := by
        rcases eq_or_ne (value + 1) 0 with zero | nonzero
        · exact .inl (by exact_mod_cast zero)
        · exact .inr (by exact_mod_cast Int.one_le_abs nonzero)
      have half : |((value : Rat) + 1) / 2| < overflow := by
        rw [abs_div, abs_two]
        linarith [abs_nonneg ((value : Rat) + 1)]
      have sum : fraction? (.real (nearest (.integer value))) =
          some ((.finite negative ordinal + .one) / .two) := by
        rw [nearest, rounded]
        rfl
      rw [sum, finite_add_one, same, ofRat_div_two below whole, fraction?, ofRat?_eq_some half]

/-- An exact coordinate has the pixel of its binary64 number. -/
theorem pixel_nearest {coordinate : Number} (exact : IsExact coordinate) (extent : Number) :
    pixel (.real (nearest coordinate)) extent = pixel coordinate extent := by
  have binary : binaryPixel? (.real (nearest coordinate)) extent =
      binaryPixel? coordinate extent := by
    rw [binaryPixel?, binaryPixel?, fraction?_nearest exact]
  have precise : exactPixel (.real (nearest coordinate)) extent = exactPixel coordinate extent := by
    rw [exactPixel, exactPixel, exact]
  rw [pixel, pixel, binary, precise]

/-! ## Pixels of 64 bits -/

/-- An integer of 64 bits, the least one left out. -/
def IsSmall (position : Int) : Prop :=
  position.natAbs < 2 ^ 63

instance : DecidablePred IsSmall :=
  fun position => inferInstanceAs (Decidable (position.natAbs < 2 ^ 63))

section

variable {extent : Int} (positive : 0 < extent) (small : extent < 2 ^ 63)

include positive small

theorem extent_lt_overflow : |(extent : Rat)| < overflow := by
  have whole : (extent : Rat) < 2 ^ 63 := by exact_mod_cast small
  rw [abs_of_pos (by exact_mod_cast positive)]
  calc (extent : Rat)
      < 2 ^ 63 := whole
    _ = 2 ^ (63 : Int) := (zpow_natCast 2 63).symm
    _ ≤ 2 ^ (1023 : Int) := zpow_le_zpow_right₀ one_le_two (by decide)
    _ ≤ overflow := le_overflow

/-- An image that is not finite has a large exact value. -/
theorem le_of_not_finite {negative : Bool} {ordinal : Fin magnitudeCount}
    (infinite : (ofRat extent * ((Binary64.finite negative ordinal + .one) / .two)).isFinite ≠
      true) :
    2 ^ 64 ≤ |((Binary64.finite negative ordinal).toRat + 1) / 2 * extent| := by
  obtain ⟨_, length, lengthEq, lengthLe⟩ := exists_ofRat (extent_lt_overflow positive small)
  obtain ⟨_, fraction, fractionEq, fractionLe⟩ := exists_half_add_one negative ordinal
  rw [lengthEq, fractionEq] at infinite
  have large : overflow ≤ magnitude length * magnitude fraction :=
    not_lt.1 fun inRange => infinite ((isFinite_ofMagnitude _ _).2 inRange)
  have product := mul_le_mul lengthLe fractionLe (magnitude_nonneg _) (by positivity)
  have wide : (2 : Rat) ^ 64 * 8 ≤ overflow :=
    calc (2 : Rat) ^ 64 * 8
        = 2 ^ (67 : Int) := by norm_num
      _ ≤ 2 ^ (1023 : Int) := zpow_le_zpow_right₀ one_le_two (by decide)
      _ ≤ overflow := le_overflow
  rw [abs_mul, abs_div, abs_two]
  linarith

omit positive small in
theorem not_isSmall_of_le {value : Rat} (large : 2 ^ 64 ≤ |value|) :
    ¬IsSmall (nearestEven value) := by
  intro few
  have bounded : |(nearestEven value : Rat)| < 2 ^ 63 := by
    rw [← Int.cast_abs, Int.abs_eq_natAbs]
    exact_mod_cast few
  obtain ⟨low, high⟩ := nearestEven_bounds value
  obtain ⟨lower, upper⟩ := abs_lt.1 bounded
  rcases le_abs.1 large with above | below
  · linarith
  · linarith

/-- The image of a binary64 number before rounding. -/
theorem binaryPixel?_real (coordinate : Binary64) :
    binaryPixel? (.real coordinate) (.integer extent) =
      some (ofRat extent * ((coordinate + .one) / .two)) := by
  have length : toBinary64? (.integer extent) = some (ofRat extent) :=
    ofRat?_eq_some (extent_lt_overflow positive small)
  rw [binaryPixel?, length]
  rfl

omit positive small in
theorem exists_roundReal_eq_error {value : Binary64} (infinite : value.isFinite ≠ true) :
    ∃ fault, roundReal value = .error fault := by
  cases value with
  | finite _ _ => exact absurd rfl infinite
  | infinity _ => exact ⟨_, rfl⟩
  | nan => exact ⟨_, rfl⟩

/-- Where the image is not finite, the pixel is computed exactly. -/
theorem pixel_eq_exactPixel {coordinate : Binary64}
    (infinite : (ofRat extent * ((coordinate + .one) / .two)).isFinite ≠ true) :
    pixel (.real coordinate) (.integer extent) =
      exactPixel (.real coordinate) (.integer extent) := by
  rw [pixel, binaryPixel?_real positive small]
  cases image : ofRat extent * ((coordinate + .one) / .two) with
  | finite _ _ =>
      rw [image] at infinite
      exact absurd rfl infinite
  | infinity _ => rfl
  | nan => rfl

theorem not_isFinite_image {coordinate : Binary64} (infinite : coordinate.isFinite ≠ true) :
    (ofRat extent * ((coordinate + .one) / .two)).isFinite ≠ true := by
  obtain ⟨_, length, lengthEq, -⟩ := exists_ofRat (extent_lt_overflow positive small)
  rw [lengthEq, one_eq, two_eq]
  cases coordinate with
  | finite _ _ => exact absurd rfl infinite
  | nan => exact nofun
  | infinity sign =>
      change (if _ then Binary64.nan else .infinity _).isFinite ≠ true
      split
      · exact nofun
      · exact nofun

/-- A binary64 number with a pixel is finite. -/
theorem isFinite_of_pixel {coordinate : Binary64} {position : Int}
    (mapped : pixel (.real coordinate) (.integer extent) = .ok position) :
    coordinate.isFinite = true := by
  by_contra infinite
  rw [pixel_eq_exactPixel positive small (not_isFinite_image positive small infinite)] at mapped
  cases coordinate with
  | finite _ _ => exact infinite rfl
  | infinity _ => cases mapped
  | nan => cases mapped

/-- The image of a binary64 number is its pixel when that is small. -/
theorem smallPixel?_eq_some {coordinate : Binary64} {position : Int} :
    smallPixel? (ofRat extent) coordinate = some position ↔
      pixel (.real coordinate) (.integer extent) = .ok position ∧ IsSmall position := by
  by_cases finite : (ofRat extent * ((coordinate + .one) / .two)).isFinite = true
  · obtain ⟨sign, place, image⟩ := exists_of_isFinite finite
    rw [smallPixel?, pixel, binaryPixel?_real positive small, image]
    simp only [roundReal, Except.ok.injEq]
    split
    next few =>
      rw [Option.some.injEq]
      constructor
      · rintro rfl
        exact ⟨rfl, few⟩
      · exact And.left
    next many =>
      refine iff_of_false nofun ?_
      rintro ⟨rfl, few⟩
      exact many few
  · obtain ⟨fault, failed⟩ := exists_roundReal_eq_error finite
    rw [smallPixel?, failed, pixel_eq_exactPixel positive small finite]
    refine iff_of_false nofun ?_
    -- The exact pixel is too large, or there is none.
    cases coordinate with
    | finite negative ordinal =>
        rintro ⟨⟨⟩, few⟩
        exact not_isSmall_of_le (le_of_not_finite positive small finite) few
    | infinity sign => exact nofun
    | nan => exact nofun

end

end VectorScene.Canvas
