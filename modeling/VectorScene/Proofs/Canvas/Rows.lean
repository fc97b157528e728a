import VectorScene.Proofs.Canvas.Vertices

/-!
# Pixels of rows of numbers

Rows of any lengths are mapped as points when each has two numbers.  Other rows are refused,
unless all have one length and their numbers, taken two by two, have images of 64 bits.
-/

namespace VectorScene

open VectorScene.Number VectorScene.Number.Binary64

/-- The row of some numbers. -/
def Row.ofNumbers (numbers : List Number) : Row :=
  .several (numbers.map .number)

namespace Canvas

/-- Rows of one length whose numbers, two by two, are the coordinates of points. -/
structure Regroups (rows : List (List Number)) (points : List (Number × Number)) : Prop where
  level : ∃ size, ∀ row ∈ rows, row.length = size
  numbers : rows.flatten = coordinates points

/-- An image of a row: that of the point whose coordinates are its two numbers, as they are or
rounded. -/
def IsImage (width height : Int) (row : List Number) (image : Int × Int) : Prop :=
  ∃ point : Number × Number, row = [point.1, point.2] ∧
    (pointPixels width height point = .ok image ∨ RoundsTo width height point image)

variable {width height : Int} {rows : List (List Number)} {points : List (Number × Number)}

/-! ## Rows of one length -/

theorem regroup_of_level {size : Nat} (level : ∀ row ∈ rows, row.length = size) :
    regroup (rows.map Row.ofNumbers) = .ok (rows.flatten.map .number) := by
  have values : (rows.map Row.ofNumbers).flatMap Row.values = rows.flatten.map .number := by
    rw [List.flatMap_map, List.map_flatten]
    rfl
  cases rows with
  | nil => rfl
  | cons first rest =>
      rw [List.forall_mem_cons] at level
      have even : (rest.map Row.ofNumbers).all (Row.ofNumbers first).sameShape = true := by
        rw [List.all_map, List.all_eq_true]
        intro row member
        simp only [Function.comp_apply, Row.ofNumbers, Row.sameShape, List.length_map, level.1,
          level.2 row member, decide_true]
      rw [← values, List.map_cons, regroup, if_pos even]

/-- Rows of different lengths are not regrouped. -/
theorem regroup_of_not_level (uneven : ¬∃ size, ∀ row ∈ rows, row.length = size) :
    regroup (rows.map Row.ofNumbers) = .error .unevenRows := by
  cases rows with
  | nil => exact absurd ⟨0, List.forall_mem_nil _⟩ uneven
  | cons first rest =>
      rw [List.map_cons, regroup, if_neg]
      intro even
      rw [List.all_map, List.all_eq_true] at even
      refine uneven ⟨first.length, List.forall_mem_cons.2 ⟨rfl, fun row member => ?_⟩⟩
      have same : (first.map Value.number).length = (row.map Value.number).length :=
        of_decide_eq_true (even row member)
      rw [List.length_map, List.length_map] at same
      exact same.symm

theorem length_flatten_of_level {size : Nat} (level : ∀ row ∈ rows, row.length = size) :
    rows.flatten.length = rows.length * size := by
  induction rows with
  | nil => exact (Nat.zero_mul size).symm
  | cons first rest ih =>
      rw [List.forall_mem_cons] at level
      rw [List.flatten_cons, List.length_append, level.1, ih level.2, List.length_cons,
        Nat.succ_mul, Nat.add_comm]

/-- An even number of numbers are the coordinates of points. -/
theorem exists_coordinates :
    ∀ numbers : List Number, numbers.length % 2 = 0 → ∃ points, numbers = coordinates points
  | [], _ => ⟨[], rfl⟩
  | [_], odd => by cases odd
  | x :: y :: rest, even => by
      obtain ⟨points, rfl⟩ := exists_coordinates rest ((Nat.add_mod_right _ 2).symm.trans even)
      exact ⟨(x, y) :: points, rfl⟩

/-- Numbers are the coordinates of points in one way. -/
theorem coordinates_injective : Function.Injective coordinates := by
  intro points others same
  induction points generalizing others with
  | nil =>
      cases others with
      | nil => rfl
      | cons other rest => cases same
  | cons point rest ih =>
      cases others with
      | nil => cases same
      | cons other others =>
          obtain ⟨sameX, after⟩ := List.cons.inj same
          obtain ⟨sameY, sameRest⟩ := List.cons.inj after
          rw [Prod.ext sameX sameY, ih sameRest]

/-! ## Rows one by one -/

theorem pair_ofNumbers {numbers : List Number} (other : numbers.length ≠ 2) :
    (Row.ofNumbers numbers).pair = .error .rowNotPair := by
  match numbers with
  | [] => rfl
  | [_] => rfl
  | [_, _] => exact absurd rfl other
  | _ :: _ :: _ :: _ => rfl

/-- Rows of one length that is not two are refused at the first one. -/
theorem pixelsByRow_of_level {size : Nat} (level : ∀ row ∈ rows, row.length = size)
    (other : size ≠ 2) (some : rows ≠ []) (width height : Value) :
    pixelsByRow (rows.map Row.ofNumbers) width height = .error .rowNotPair := by
  cases rows with
  | nil => exact absurd rfl some
  | cons first rest =>
      rw [List.forall_mem_cons] at level
      rw [← level.1] at other
      rw [pixelsByRow, List.map_cons, List.mapM_cons, pair_ofNumbers other]
      rfl

/-- Rows of two numbers are those of points. -/
theorem exists_points (pairs : ∀ row ∈ rows, row.length = 2) :
    ∃ points : List (Number × Number), rows = points.map fun point => [point.1, point.2] := by
  induction rows with
  | nil => exact ⟨[], rfl⟩
  | cons first rest ih =>
      rw [List.forall_mem_cons] at pairs
      obtain ⟨x, y, rfl⟩ := List.length_eq_two.1 pairs.1
      obtain ⟨points, rfl⟩ := ih pairs.2
      exact ⟨(x, y) :: points, rfl⟩

/-! ## All rows together -/

/-- Rows of two numbers each have an image, in order. -/
theorem forall_isImage (positiveWidth : 0 < width) (smallWidth : width < 2 ^ 63)
    (positiveHeight : 0 < height) (smallHeight : height < 2 ^ 63)
    (pairs : ∀ row ∈ rows, row.length = 2) {images : List (Int × Int)}
    (mapped : pixels (rows.map Row.ofNumbers) (.number (.integer width))
      (.number (.integer height)) = .ok images) :
    List.Forall₂ (IsImage width height) rows images := by
  obtain ⟨points, rfl⟩ := exists_points pairs
  have sameRows : (points.map fun point => [point.1, point.2]).map Row.ofNumbers =
      points.map Row.ofPoint := List.map_map
  rw [sameRows] at mapped
  rw [List.forall₂_map_left_iff]
  rcases pixels_points positiveWidth smallWidth positiveHeight smallHeight points with
    ⟨others, roundsTo, same⟩ | ⟨-, same⟩
  · cases same.symm.trans mapped
    exact roundsTo.imp fun point image rounds => ⟨point, rfl, .inr rounds⟩
  · have alone := mapM_eq_ok.1 (same.symm.trans mapped)
    exact alone.imp fun point image maps => ⟨point, rfl, .inl maps⟩

/-- Rows of one length with an odd number of numbers in all are refused. -/
theorem pixels_of_odd {size : Nat} (level : ∀ row ∈ rows, row.length = size)
    (odd : rows.flatten.length % 2 = 1) :
    pixels (rows.map Row.ofNumbers) (.number (.integer width)) (.number (.integer height)) =
        .error .unevenRows ∨
      pixels (rows.map Row.ofNumbers) (.number (.integer width)) (.number (.integer height)) =
        .error .rowNotPair := by
  have values := regroup_of_level level
  rcases exceeds_or_fits rows.flatten with exceeds | fits
  · right
    -- The rows are mapped one by one, and two numbers in each would be an even number in all.
    have total := length_flatten_of_level level
    have other : size ≠ 2 := by
      rintro rfl
      omega
    have some : rows ≠ [] := by
      rintro rfl
      cases odd
    rw [pixels_of_not_fits values exceeds, pixelsByRow_of_level level other some]
  · left
    have oddReals : (rows.flatten.map nearest).length % 2 = 1 := by rw [List.length_map, odd]
    simp only [pixels, values, ok_bind, mapM_coordinateToBinary64, mapM_toBinary64 fits,
      if_pos oddReals]

/-- Regrouped rows give another number of points than there are rows, unless the rows have
two numbers each. -/
theorem Regroups.length_ne (regroups : Regroups rows points)
    (malformed : ∃ row ∈ rows, row.length ≠ 2) : points.length ≠ rows.length := by
  obtain ⟨size, level⟩ := regroups.level
  obtain ⟨row, member, other⟩ := malformed
  have total := length_flatten_of_level level
  rw [regroups.numbers, length_coordinates] at total
  intro same
  have positive : 0 < rows.length := List.length_pos_of_mem member
  rw [same, Nat.mul_comm] at total
  exact other ((level row member).trans (Nat.eq_of_mul_eq_mul_left positive total).symm)

/-- Rows of which one has not two numbers are refused, unless they regroup to points whose
images fit 64 bits when their coordinates are rounded. -/
theorem pixels_malformed (positiveWidth : 0 < width) (smallWidth : width < 2 ^ 63)
    (positiveHeight : 0 < height) (smallHeight : height < 2 ^ 63)
    (malformed : ∃ row ∈ rows, row.length ≠ 2) :
    (∃ points images, Regroups rows points ∧
      List.Forall₂ (RoundsTo width height) points images ∧
      pixels (rows.map Row.ofNumbers) (.number (.integer width)) (.number (.integer height)) =
        .ok images) ∨
    ((¬∃ points images, Regroups rows points ∧
        List.Forall₂ (RoundsTo width height) points images) ∧
      (pixels (rows.map Row.ofNumbers) (.number (.integer width)) (.number (.integer height)) =
          .error .unevenRows ∨
        pixels (rows.map Row.ofNumbers) (.number (.integer width)) (.number (.integer height)) =
          .error .rowNotPair)) := by
  by_cases level : ∃ size, ∀ row ∈ rows, row.length = size
  · obtain ⟨size, level⟩ := level
    rcases Nat.mod_two_eq_zero_or_one rows.flatten.length with even | odd
    · obtain ⟨points, numbers⟩ := exists_coordinates rows.flatten even
      have values := regroup_of_level level
      rw [numbers] at values
      rcases pixels_regrouped positiveWidth smallWidth positiveHeight smallHeight values with
        ⟨images, roundsTo, same⟩ | ⟨none, same⟩
      · exact .inl ⟨points, images, ⟨⟨size, level⟩, numbers⟩, roundsTo, same⟩
      · right
        obtain ⟨row, member, other⟩ := malformed
        rw [level row member] at other
        rw [pixelsByRow_of_level level other (List.ne_nil_of_mem member)] at same
        refine ⟨?_, .inr same⟩
        -- The numbers pair up in one way, so no other points have images that fit.
        rintro ⟨others, images, regroups, roundsTo⟩
        cases coordinates_injective (regroups.numbers.symm.trans numbers)
        exact none images roundsTo
    · right
      refine ⟨?_, pixels_of_odd level odd⟩
      rintro ⟨points, images, regroups, -⟩
      rw [regroups.numbers, length_coordinates] at odd
      omega
  · refine .inr ⟨?_, .inl ?_⟩
    · rintro ⟨points, images, regroups, -⟩
      exact level regroups.level
    · rw [pixels, regroup_of_not_level level]
      rfl

end Canvas

end VectorScene
