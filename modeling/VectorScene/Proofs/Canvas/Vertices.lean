import VectorScene.Proofs.Canvas.Pixel

/-!
# Pixels of vertices

Points that are mapped together are those that are mapped one by one, as long as their
coordinates are binary64 numbers.  Larger integers are rounded to such numbers first, if all
images then fit 64 bits.
-/

namespace VectorScene

open VectorScene.Number VectorScene.Number.Binary64

/-- The row of a point. -/
def Row.ofPoint (point : Number × Number) : Row :=
  .several [.number point.1, .number point.2]

namespace Canvas

/-- The pixels of a point on its own. -/
def pointPixels (width height : Int) (point : Number × Number) : Except Fault (Int × Int) := do
  let x ← pixel point.1 (.integer width)
  let y ← pixel point.2 (.integer height)
  return (x, y)

/-- A point and its image when its coordinates are rounded and the image fits 64 bits. -/
def RoundsTo (width height : Int) (point : Number × Number) (image : Int × Int) : Prop :=
  pointPixels width height (.real (nearest point.1), .real (nearest point.2)) = .ok image ∧
    IsSmall image.1 ∧ IsSmall image.2

variable {width height : Int} {points : List (Number × Number)}

theorem pointPixels_eq_ok {point : Number × Number} {image : Int × Int} :
    pointPixels width height point = .ok image ↔
      pixel point.1 (.integer width) = .ok image.1 ∧
        pixel point.2 (.integer height) = .ok image.2 := by
  rw [pointPixels, bind_eq_ok]
  constructor
  · rintro ⟨x, mapsX, rest⟩
    obtain ⟨y, mapsY, same⟩ := bind_eq_ok.1 rest
    cases pure_eq_ok.1 same
    exact ⟨mapsX, mapsY⟩
  · rintro ⟨mapsX, mapsY⟩
    refine ⟨image.1, mapsX, ?_⟩
    rw [mapsY]
    rfl

/-- One by one, points with finite coordinates all have pixels. -/
theorem exists_pixelsByRow (finite : ∀ point ∈ points, HasValue point.1 ∧ HasValue point.2)
    (width height : Int) : ∃ images, points.mapM (pointPixels width height) = .ok images := by
  refine exists_mapM_eq_ok fun point member => ?_
  obtain ⟨x, mapsX⟩ := exists_pixel (finite point member).1 width
  obtain ⟨y, mapsY⟩ := exists_pixel (finite point member).2 height
  exact ⟨(x, y), pointPixels_eq_ok.2 ⟨mapsX, mapsY⟩⟩

theorem pixelsByRow_points :
    pixelsByRow (points.map Row.ofPoint) (.number (.integer width)) (.number (.integer height)) =
      points.mapM (pointPixels width height) := by
  rw [pixelsByRow, List.mapM_map]
  rfl

/-! ## Rounded coordinates -/

/-- The coordinates of points by turns. -/
def coordinates (points : List (Number × Number)) : List Number :=
  points.flatMap fun point => [point.1, point.2]

theorem regroup_points (points : List (Number × Number)) :
    regroup (points.map Row.ofPoint) = .ok ((coordinates points).map .number) := by
  have values : (points.map Row.ofPoint).flatMap Row.values = (coordinates points).map .number := by
    rw [coordinates, List.flatMap_map, List.map_flatMap]
    rfl
  cases points with
  | nil => rfl
  | cons first rest =>
      have even : (rest.map Row.ofPoint).all (Row.ofPoint first).sameShape = true := by
        rw [List.all_map, List.all_eq_true]
        exact fun _ _ => rfl
      rw [← values, List.map_cons, regroup, if_pos even]

theorem toBinary64_eq (coordinate : Number) :
    toBinary64 coordinate = .ok (nearest coordinate) ∨
      (toBinary64 coordinate = .error .beyondBinary64 ∧ (nearest coordinate).isFinite ≠ true) := by
  cases coordinate with
  | real value => exact .inl rfl
  | integer value =>
      rw [toBinary64, toBinary64?, nearest, ofRat?]
      by_cases finite : (ofRat value).isFinite = true
      · rw [if_pos finite]
        exact .inl rfl
      · rw [if_neg finite]
        exact .inr ⟨rfl, finite⟩

/-- Some coordinate is too large for a binary64 number, or each has a nearest one. -/
theorem exceeds_or_fits (numbers : List Number) :
    (∃ coordinate ∈ numbers, toBinary64 coordinate = .error .beyondBinary64) ∨
      ∀ coordinate ∈ numbers, toBinary64 coordinate = .ok (nearest coordinate) := by
  by_cases exceeds : ∃ coordinate ∈ numbers, toBinary64 coordinate = .error .beyondBinary64
  · exact .inl exceeds
  · exact .inr fun coordinate member => (toBinary64_eq coordinate).resolve_right fun large =>
      exceeds ⟨coordinate, member, large.1⟩

theorem mapM_toBinary64 {numbers : List Number}
    (fits : ∀ coordinate ∈ numbers, toBinary64 coordinate = .ok (nearest coordinate)) :
    numbers.mapM toBinary64 = .ok (numbers.map nearest) := by
  rw [mapM_eq_ok, List.forall₂_map_right_iff, List.forall₂_same]
  exact fits

theorem pairUp_eq_some (positiveWidth : 0 < width) (smallWidth : width < 2 ^ 63)
    (positiveHeight : 0 < height) (smallHeight : height < 2 ^ 63) {images : List (Int × Int)} :
    pairUp (smallPixel? (ofRat width)) (smallPixel? (ofRat height))
        ((coordinates points).map nearest) = some images ↔
      List.Forall₂ (RoundsTo width height) points images := by
  have onX (coordinate : Binary64) (position : Int) :
      smallPixel? (ofRat width) coordinate = some position ↔
        pixel (.real coordinate) (.integer width) = .ok position ∧ IsSmall position :=
    smallPixel?_eq_some positiveWidth smallWidth
  have onY (coordinate : Binary64) (position : Int) :
      smallPixel? (ofRat height) coordinate = some position ↔
        pixel (.real coordinate) (.integer height) = .ok position ∧ IsSmall position :=
    smallPixel?_eq_some positiveHeight smallHeight
  induction points generalizing images with
  | nil =>
      rw [List.forall₂_nil_left_iff, coordinates, List.flatMap_nil, List.map_nil, pairUp,
        Option.some.injEq, eq_comm]
      exact nofun
  | cons point rest ih =>
      have split : (coordinates (point :: rest)).map nearest =
          nearest point.1 :: nearest point.2 :: (coordinates rest).map nearest := rfl
      rw [split, pairUp, List.forall₂_cons_left_iff]
      simp only [Option.bind_eq_some_iff, Option.map_eq_some_iff, onX, onY, ih, RoundsTo,
        pointPixels_eq_ok]
      constructor
      · rintro ⟨x, ⟨mapsX, smallX⟩, y, ⟨mapsY, smallY⟩, others, maps, rfl⟩
        exact ⟨(x, y), others, ⟨⟨mapsX, mapsY⟩, smallX, smallY⟩, maps, rfl⟩
      · rintro ⟨⟨x, y⟩, others, ⟨⟨mapsX, mapsY⟩, smallX, smallY⟩, maps, rfl⟩
        exact ⟨x, ⟨mapsX, smallX⟩, y, ⟨mapsY, smallY⟩, others, maps, rfl⟩

theorem length_coordinates (points : List (Number × Number)) :
    (coordinates points).length = 2 * points.length := by
  induction points with
  | nil => rfl
  | cons point rest ih =>
      change (coordinates rest).length + 2 = 2 * (rest.length + 1)
      omega

theorem mapM_coordinateToBinary64 (numbers : List Number) :
    (numbers.map Value.number).mapM coordinateToBinary64 = numbers.mapM toBinary64 := by
  rw [List.mapM_map]
  rfl

section

variable {rows : List Row}

/-- Coordinates that all have a nearest binary64 number are mapped by it, if that gives
images of 64 bits. -/
theorem pixels_of_fits (values : regroup rows = .ok ((coordinates points).map .number))
    (fits : ∀ coordinate ∈ coordinates points, toBinary64 coordinate = .ok (nearest coordinate))
    (smallWidth : |(width : Rat)| < overflow) (smallHeight : |(height : Rat)| < overflow) :
    pixels rows (.number (.integer width)) (.number (.integer height)) =
      (pairUp (smallPixel? (ofRat width)) (smallPixel? (ofRat height))
        ((coordinates points).map nearest)).elim
          (pixelsByRow rows (.number (.integer width)) (.number (.integer height))) .ok := by
  have even : ((coordinates points).map nearest).length % 2 ≠ 1 := by
    rw [List.length_map, length_coordinates]
    omega
  have extent {length : Int} (small : |(length : Rat)| < overflow) :
      (Value.number (.integer length)).operand.bind toBinary64 = .ok (ofRat length) := by
    change toBinary64 (.integer length) = _
    rw [toBinary64, toBinary64?, ofRat?_eq_some small]
  simp only [pixels, values, ok_bind, mapM_coordinateToBinary64, mapM_toBinary64 fits, if_neg even,
    extent smallWidth, extent smallHeight]
  split
  next empty =>
    rw [List.isEmpty_iff.1 empty, pairUp]
    · rfl
    · exact nofun
  next =>
    split
    next found => rw [found, Option.elim_some]
    next missing => rw [missing, Option.elim_none]

/-- Where a coordinate has none, all rows are mapped one by one. -/
theorem pixels_of_not_fits {numbers : List Number}
    (values : regroup rows = .ok (numbers.map .number))
    (exceeds : ∃ coordinate ∈ numbers, toBinary64 coordinate = .error .beyondBinary64) :
    pixels rows (.number (.integer width)) (.number (.integer height)) =
      pixelsByRow rows (.number (.integer width)) (.number (.integer height)) := by
  have failed : numbers.mapM toBinary64 = .error .beyondBinary64 := by
    refine mapM_eq_error (fun coordinate _ other failed => ?_) exceeds
    rcases toBinary64_eq coordinate with fits | ⟨large, -⟩
    · cases fits.symm.trans failed
    · cases large.symm.trans failed
      rfl
  simp only [pixels, values, ok_bind, mapM_coordinateToBinary64, failed]

/-- Rows that hold the coordinates of points are mapped by the binary64 numbers nearest to
these, if all images fit 64 bits, and one by one otherwise. -/
theorem pixels_regrouped (positiveWidth : 0 < width) (smallWidth : width < 2 ^ 63)
    (positiveHeight : 0 < height) (smallHeight : height < 2 ^ 63)
    (values : regroup rows = .ok ((coordinates points).map .number)) :
    (∃ images, List.Forall₂ (RoundsTo width height) points images ∧
      pixels rows (.number (.integer width)) (.number (.integer height)) = .ok images) ∨
    ((∀ images, ¬List.Forall₂ (RoundsTo width height) points images) ∧
      pixels rows (.number (.integer width)) (.number (.integer height)) =
        pixelsByRow rows (.number (.integer width)) (.number (.integer height))) := by
  have pairs (images : List (Int × Int)) :
      pairUp (smallPixel? (ofRat width)) (smallPixel? (ofRat height))
          ((coordinates points).map nearest) = some images ↔
        List.Forall₂ (RoundsTo width height) points images :=
    pairUp_eq_some positiveWidth smallWidth positiveHeight smallHeight
  rcases exceeds_or_fits (coordinates points) with exceeds | fits
  · refine .inr ⟨fun images roundsTo => ?_, pixels_of_not_fits values exceeds⟩
    obtain ⟨coordinate, member, large⟩ := exceeds
    have infinite : (nearest coordinate).isFinite ≠ true := by
      rcases toBinary64_eq coordinate with fits | ⟨-, infinite⟩
      · cases fits.symm.trans large
      · exact infinite
    obtain ⟨point, inside, among⟩ := List.mem_flatMap.1 member
    obtain ⟨image, -, maps, -⟩ := exists_right roundsTo inside
    obtain ⟨mapsX, mapsY⟩ := pointPixels_eq_ok.1 maps
    rcases List.mem_pair.1 among with rfl | rfl
    · exact infinite (isFinite_of_pixel positiveWidth smallWidth mapsX)
    · exact infinite (isFinite_of_pixel positiveHeight smallHeight mapsY)
  · rw [pixels_of_fits values fits (extent_lt_overflow positiveWidth smallWidth)
      (extent_lt_overflow positiveHeight smallHeight)]
    cases found : pairUp (smallPixel? (ofRat width)) (smallPixel? (ofRat height))
        ((coordinates points).map nearest) with
    | some images => exact .inl ⟨images, (pairs images).1 found, rfl⟩
    | none =>
        refine .inr ⟨fun images roundsTo => ?_, rfl⟩
        cases found.symm.trans ((pairs images).2 roundsTo)

end

/-- Points are mapped by the binary64 numbers nearest to their coordinates, if all images
fit 64 bits, and one by one otherwise. -/
theorem pixels_points (positiveWidth : 0 < width) (smallWidth : width < 2 ^ 63)
    (positiveHeight : 0 < height) (smallHeight : height < 2 ^ 63)
    (points : List (Number × Number)) :
    (∃ images, List.Forall₂ (RoundsTo width height) points images ∧
      pixels (points.map Row.ofPoint) (.number (.integer width)) (.number (.integer height)) =
        .ok images) ∨
    ((∀ images, ¬List.Forall₂ (RoundsTo width height) points images) ∧
      pixels (points.map Row.ofPoint) (.number (.integer width)) (.number (.integer height)) =
        points.mapM (pointPixels width height)) := by
  rw [← pixelsByRow_points]
  exact pixels_regrouped positiveWidth smallWidth positiveHeight smallHeight
    (regroup_points points)

theorem roundsTo_unique {images others : List (Int × Int)}
    (first : List.Forall₂ (RoundsTo width height) points images)
    (second : List.Forall₂ (RoundsTo width height) points others) : images = others := by
  have unique : Relator.RightUnique (RoundsTo width height) :=
    fun _ _ _ maps mapsOther => Except.ok.inj (maps.1.symm.trans mapsOther.1)
  exact List.right_unique_forall₂' unique first second

/-- Exact coordinates are mapped as they are. -/
theorem eq_of_roundsTo (exact : ∀ point ∈ points, IsExact point.1 ∧ IsExact point.2)
    {images : List (Int × Int)} (roundsTo : List.Forall₂ (RoundsTo width height) points images) :
    points.mapM (pointPixels width height) = .ok images := by
  rw [mapM_eq_ok]
  induction roundsTo with
  | nil => exact .nil
  | cons maps _ ih =>
      rw [List.forall_mem_cons] at exact
      obtain ⟨mapsX, mapsY⟩ := pointPixels_eq_ok.1 maps.1
      rw [pixel_nearest exact.1.1] at mapsX
      rw [pixel_nearest exact.1.2] at mapsY
      exact .cons (pointPixels_eq_ok.2 ⟨mapsX, mapsY⟩) (ih exact.2)

/-- Points whose integers are small have exact coordinates. -/
theorem isExact_of_small (small : ∀ value, .integer value ∈ coordinates points → |value| ≤ 2 ^ 53) :
    ∀ point ∈ points, IsExact point.1 ∧ IsExact point.2 := by
  have exact : ∀ coordinate ∈ coordinates points, IsExact coordinate := by
    intro coordinate member
    cases coordinate with
    | integer value => exact isExact_integer (small value member)
    | real value => exact isExact_real value
  intro point member
  exact ⟨exact _ (List.mem_flatMap.2 ⟨point, member, List.mem_cons_self⟩),
    exact _ (List.mem_flatMap.2 ⟨point, member, List.mem_cons_of_mem _ List.mem_cons_self⟩)⟩

/-- Points with finite coordinates are always mapped.  They are mapped one by one unless
rounding their coordinates to binary64 numbers gives images that all fit 64 bits, and then
these are the images.  So the two ways agree exactly when the images are the same, as they
are for coordinates that are binary64 numbers, such as all integers of at most `2⁵³`. -/
theorem pixels_agree (positiveWidth : 0 < width) (smallWidth : width < 2 ^ 63)
    (positiveHeight : 0 < height) (smallHeight : height < 2 ^ 63)
    (finite : ∀ point ∈ points, HasValue point.1 ∧ HasValue point.2) :
    ∃ single together, points.mapM (pointPixels width height) = .ok single ∧
      pixels (points.map Row.ofPoint) (.number (.integer width)) (.number (.integer height)) =
        .ok together ∧
      (List.Forall₂ (RoundsTo width height) points together ∨
        (∀ images, ¬List.Forall₂ (RoundsTo width height) points images) ∧ together = single) ∧
      (together = single ↔
        ∀ images, List.Forall₂ (RoundsTo width height) points images → images = single) ∧
      ((∀ point ∈ points, IsExact point.1 ∧ IsExact point.2) → together = single) ∧
      ((∀ value, .integer value ∈ coordinates points → |value| ≤ 2 ^ 53) →
        together = single) := by
  obtain ⟨single, mapped⟩ := exists_pixelsByRow finite width height
  rcases pixels_points positiveWidth smallWidth positiveHeight smallHeight points with
    ⟨images, roundsTo, same⟩ | ⟨none, same⟩
  · have agree (exact : ∀ point ∈ points, IsExact point.1 ∧ IsExact point.2) :
        images = single :=
      Except.ok.inj ((eq_of_roundsTo exact roundsTo).symm.trans mapped)
    refine ⟨single, images, mapped, same, .inl roundsTo, ?_, agree,
      fun small => agree (isExact_of_small small)⟩
    constructor
    · rintro rfl others roundsToOthers
      exact roundsTo_unique roundsToOthers roundsTo
    · exact fun all => all images roundsTo
  · refine ⟨single, single, mapped, same.trans mapped, .inr ⟨none, rfl⟩, ?_, fun _ => rfl,
      fun _ => rfl⟩
    exact iff_of_true rfl fun images roundsTo => absurd roundsTo (none images)

/-- A coordinate of `2⁵³ + 1` is rounded before one is added. -/
theorem pixels_agree_large :
    let points := [(Number.integer 9007199254740993, Number.integer 0)]
    points.mapM (pointPixels 1 1) = .ok [(4503599627370497, 0)] ∧
      pixels (points.map Row.ofPoint) (.number (.integer 1)) (.number (.integer 1)) =
        .ok [(4503599627370496, 0)] ∧
      ¬∀ point ∈ points, IsExact point.1 ∧ IsExact point.2 := by
  intro points
  have finite : ∀ point ∈ points, HasValue point.1 ∧ HasValue point.2 :=
    List.forall_mem_singleton.2 ⟨⟨_, rfl⟩, ⟨_, rfl⟩⟩
  have positive : (0 : Int) < 1 := by decide
  have small : (1 : Int) < 2 ^ 63 := by decide
  obtain ⟨single, together, mapped, same, rounded, -, exact, -⟩ :=
    pixels_agree positive small positive small finite
  have alone : points.mapM (pointPixels 1 1) = .ok [(4503599627370497, 0)] := by decide +kernel
  have rounds : List.Forall₂ (RoundsTo 1 1) points [(4503599627370496, 0)] :=
    .cons ⟨by decide +kernel, by decide, by decide⟩ .nil
  cases mapped.symm.trans alone
  obtain rfl : together = [(4503599627370496, 0)] := by
    rcases rounded with roundsTo | ⟨none, -⟩
    · exact roundsTo_unique roundsTo rounds
    · exact absurd rounds (none _)
  exact ⟨alone, same, fun all => by cases exact all⟩

end Canvas

end VectorScene
