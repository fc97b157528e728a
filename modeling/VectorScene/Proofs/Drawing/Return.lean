import VectorScene.Proofs.Canvas.Return
import VectorScene.Proofs.Drawing.Leaf
import VectorScene.Proofs.Drawing.Tree
import VectorScene.Proofs.Reading.Normalize

/-!
# Shapes that come back

A whole pixel on the canvas is normalized and mapped back to the same pixel.  So a shape that is
normalized and drawn again keeps its scalars, as long as these are on the canvas.
-/

namespace VectorScene.Drawing

open VectorScene.Markup VectorScene.Reading

/-! ## Shapes on the canvas -/

/-- A coordinate that is a whole pixel on the canvas. -/
def OnCanvas (canvas : Canvas) (axis : Axis) : Number → Prop
  | .integer position => 0 ≤ position ∧ position ≤ canvas.extent axis
  | .real _ => False

instance (canvas : Canvas) (axis : Axis) : DecidablePred (OnCanvas canvas axis)
  | .integer position => inferInstanceAs (Decidable (0 ≤ position ∧ position ≤ canvas.extent axis))
  | .real _ => inferInstanceAs (Decidable False)

/-- A shape whose coordinates are scalars, each of them a whole pixel on the canvas. -/
structure Fits (canvas : Canvas) (pixels : ReadShape) : Prop where
  scalar : pixels.kind ≠ .polygon
  inside : ∀ coordinate ∈ coordinates pixels, OnCanvas canvas coordinate.1 coordinate.2

instance (canvas : Canvas) : DecidablePred (Fits canvas) := fun pixels =>
  decidable_of_iff (pixels.kind ≠ .polygon ∧
    ∀ coordinate ∈ coordinates pixels, OnCanvas canvas coordinate.1 coordinate.2)
    ⟨fun ⟨scalar, inside⟩ => ⟨scalar, inside⟩, fun fits => ⟨fits.scalar, fits.inside⟩⟩

/-- An element of the kind of a shape, from which its color is read, and each of its scalars that
is a whole pixel on the canvas. -/
structure Keeps (canvas : Canvas) (pixels : ReadShape) (node : Node String) : Prop where
  tag : node.tag? = some pixels.kind.tag
  color : Stroke.read (node.get? "style") = .ok pixels.color
  scalars : Shape.Related
    (fun axis name number => OnCanvas canvas axis number → Reading.number node name = .ok number)
    (fun _ _ => True) (fun _ _ => True) pixels.kind.template pixels

/-- A canvas whose sides are at most `2 ^ 50`. -/
def Narrow (canvas : Canvas) : Prop :=
  ∀ axis, canvas.extent axis ≤ 2 ^ 50

section

variable {canvas : Canvas} {axis : Axis} {number : Number} {pixels result : ReadShape}
  {node : Node String}

/-! ## Whole pixels -/

theorem OnCanvas.exists_position (on : OnCanvas canvas axis number) (narrow : Narrow canvas) :
    ∃ position, number = .integer position ∧ |position| ≤ 2 ^ 50 := by
  cases number with
  | real => cases on
  | integer position =>
      refine ⟨position, rfl, ?_⟩
      rw [abs_of_nonneg on.1]
      exact on.2.trans (narrow axis)

/-- A whole pixel on the canvas is normalized, and mapped back to itself. -/
theorem OnCanvas.exists_normalizeScalar (on : OnCanvas canvas axis number)
    (narrow : Narrow canvas) :
    ∃ coordinate, normalizeScalar canvas axis number = .ok coordinate ∧
      ∃ position, number = .integer position ∧
        Canvas.valuePixel (.number coordinate) (extentValue canvas axis) = .ok position := by
  obtain ⟨position, rfl, -⟩ := on.exists_position narrow
  obtain ⟨coordinate, normalized, mapped⟩ :=
    Canvas.exists_normalizedOn_pixel (extent_pos canvas axis) (narrow axis) on.1 on.2
  refine ⟨.real coordinate, ?_, position, rfl, mapped⟩
  rw [normalizeScalar, normalized]
  rfl

/-- Whatever a whole pixel on the canvas is normalized to is mapped back to it. -/
theorem OnCanvas.exists_valuePixel (on : OnCanvas canvas axis number) (narrow : Narrow canvas)
    {coordinate : Number} (normalized : normalizeScalar canvas axis number = .ok coordinate) :
    ∃ position, number = .integer position ∧
      Canvas.valuePixel (.number coordinate) (extentValue canvas axis) = .ok position := by
  obtain ⟨other, same, mapped⟩ := on.exists_normalizeScalar narrow
  rw [normalized] at same
  cases same
  exact mapped

theorem exists_written {value : Int} (small : |value| ≤ 2 ^ 50) :
    ∃ text, (Number.integer value).written = .ok text := by
  cases written : (Number.integer value).written with
  | ok text => exact ⟨text, rfl⟩
  | error fault =>
      obtain ⟨-, _, ⟨⟩, long⟩ := written_eq_error.1 written
      have most : 2 ^ 50 < value.natAbs :=
        calc 2 ^ 50 < 10 ^ 16 := by decide
          _ ≤ 10 ^ Number.maxDigits := Nat.pow_le_pow_right (by decide) (by decide)
          _ ≤ value.natAbs := isTooLong_iff.1 long
      rw [Int.abs_eq_natAbs] at small
      omega

/-! ## Shapes drawn again -/

/-- The fields of a shape that is put back into a scene. -/
theorem related_toScene (result : ReadShape) :
    Shape.Related (fun _ number value => value = .number number) (fun _ _ => True)
      (fun color value => value = .number (.integer color)) result (toScene result) := by
  cases result with
  | line => exact .line rfl rfl rfl rfl rfl
  | circle => exact .circle rfl rfl rfl rfl
  | rect => exact .rect rfl rfl rfl rfl rfl
  | polygon => exact .polygon trivial rfl
  | ellipse => exact .ellipse rfl rfl rfl rfl rfl

/-- The fields of a shape that is normalized and put back into a scene. -/
theorem related_scene (normalized : Reading.normalize canvas pixels = .ok result) :
    Shape.Related
      (fun axis number value => ∃ coordinate, normalizeScalar canvas axis number = .ok coordinate ∧
        value = .number coordinate)
      (fun _ _ => True) (fun color value => value = .number (.integer color))
      pixels (toScene result) := by
  refine (Shape.mapM_eq_ok.1 normalized).trans (related_toScene result) ?_ ?_ ?_
  · intro _ number coordinate _ _ normalizedHere same
    exact ⟨coordinate, normalizedHere, same⟩
  · intros
    trivial
  · rintro color _ value ⟨⟩ same
    exact same

/-- The scalars that are whole pixels on the canvas are drawn at these pixels. -/
theorem related_pixelShape (narrow : Narrow canvas) {positions : PixelShape}
    (normalized : Reading.normalize canvas pixels = .ok result)
    (mapped : pixelShape canvas (toScene result) = .ok positions) :
    Shape.Related
      (fun axis number position => OnCanvas canvas axis number → number = .integer position)
      (fun _ _ => True)
      (fun color style => Stroke.style (.number (.integer color)) = .ok style)
      pixels positions := by
  refine (related_scene normalized).trans (Shape.mapM_eq_ok.1 mapped) ?_ ?_ ?_
  · rintro axis number _ position - ⟨coordinate, normalizedHere, rfl⟩ mappedHere on
    obtain ⟨pixel, rfl, back⟩ := on.exists_valuePixel narrow normalizedHere
    rw [mappedHere] at back
    cases back
    rfl
  · intros
    trivial
  · rintro color _ style rfl styled
    exact styled

/-- A shape that was read, normalized and drawn again keeps its scalars and its color. -/
theorem keeps_of_drawn (narrow : Narrow canvas) (read : Stroke.kept pixels.color = pixels.color)
    (normalized : Reading.normalize canvas pixels = .ok result)
    (drawn : shapeNode canvas (toScene result) = .ok node) : Keeps canvas pixels node := by
  obtain ⟨positions, mapped, textual⟩ := exceptBind_eq_ok.1 drawn
  obtain ⟨texts, written, rfl⟩ := map_eq_ok.1 textual
  rw [shape_eq]
  have inTexts : Shape.Related
      (fun axis number text => OnCanvas canvas axis number → ∃ position : Int,
        number = .integer position ∧ (Number.integer position).written = .ok text)
      (fun _ _ => True)
      (fun color style => Stroke.style (.number (.integer color)) = .ok style) pixels texts := by
    refine (related_pixelShape narrow normalized mapped).trans (Shape.mapM_eq_ok.1 written) ?_ ?_ ?_
    · intro _ number position _ _ same textual on
      exact ⟨position, same on, textual⟩
    · intros
      trivial
    · rintro color style _ styled ⟨⟩
      exact styled
  have kind : texts.kind = pixels.kind := inTexts.kind_eq.symm
  have small : (2 : Int) ^ 50 < 2 ^ 1024 - 2 ^ 970 := by decide +kernel
  constructor
  · rw [← kind]
    rfl
  · obtain ⟨_, ⟨⟩, inStyle⟩ := keptColor_of_style inTexts.color_related
    have style := (related_template texts).color_related
    rw [Node.get?, Node.attributes, style, inStyle, read]
  · rw [← kind]
    refine (related_template texts).trans inTexts.symm ?_ ?_ ?_
    · intro axis name text number _ found textual on
      have given : Node.get? (.element texts.kind.tag (elementAttributes texts) none [] none)
        name = some text := found
      obtain ⟨position, rfl, textualHere⟩ := textual on
      obtain ⟨_, ⟨⟩, bound⟩ := on.exists_position narrow
      rw [number_of_written given textualHere, if_pos (bound.trans_lt small)]
    · intros
      trivial
    · intros
      trivial

/-! ## Shapes that fit -/

/-- All scalars of a shape that fits are whole pixels on the canvas, and it has no vertices. -/
theorem Fits.related (fits : Fits canvas pixels) :
    Shape.Related (fun axis number same => number = same ∧ OnCanvas canvas axis same)
      (fun _ _ => False) (fun _ color => color = pixels.color) pixels pixels := by
  obtain ⟨scalar, inside⟩ := fits
  cases pixels with
  | polygon => exact absurd rfl scalar
  | line =>
      simp only [coordinates, List.forall_mem_cons] at inside
      obtain ⟨x1, y1, x2, y2, -⟩ := inside
      exact .line ⟨rfl, x1⟩ ⟨rfl, y1⟩ ⟨rfl, x2⟩ ⟨rfl, y2⟩ rfl
  | circle =>
      simp only [coordinates, List.forall_mem_cons] at inside
      obtain ⟨cx, cy, r, -⟩ := inside
      exact .circle ⟨rfl, cx⟩ ⟨rfl, cy⟩ ⟨rfl, r⟩ rfl
  | rect =>
      simp only [coordinates, List.forall_mem_cons] at inside
      obtain ⟨x, y, width, height, -⟩ := inside
      exact .rect ⟨rfl, x⟩ ⟨rfl, y⟩ ⟨rfl, width⟩ ⟨rfl, height⟩ rfl
  | ellipse =>
      simp only [coordinates, List.forall_mem_cons] at inside
      obtain ⟨cx, cy, rx, ry, -⟩ := inside
      exact .ellipse ⟨rfl, cx⟩ ⟨rfl, cy⟩ ⟨rfl, rx⟩ ⟨rfl, ry⟩ rfl

theorem Fits.exists_normalize (fits : Fits canvas pixels) (narrow : Narrow canvas) :
    ∃ result, Reading.normalize canvas pixels = .ok result := by
  simp only [Reading.normalize, Shape.mapM_eq_ok]
  refine fits.related.exists_next ?_ (fun _ _ => False.elim) fun _ color _ => ⟨color, rfl⟩
  rintro axis number _ ⟨rfl, on⟩
  obtain ⟨coordinate, normalized, -⟩ := on.exists_normalizeScalar narrow
  exact ⟨coordinate, normalized⟩

theorem Fits.exists_pixelShape (fits : Fits canvas pixels) (narrow : Narrow canvas)
    (normalized : Reading.normalize canvas pixels = .ok result) :
    ∃ positions, pixelShape canvas (toScene result) = .ok positions := by
  have onPixels : Shape.Related
      (fun axis _ value => ∃ position,
        Canvas.valuePixel value (extentValue canvas axis) = .ok position)
      (fun _ _ => False) (fun _ value => ∃ style, Stroke.style value = .ok style)
      pixels (toScene result) := by
    refine fits.related.trans (related_scene normalized) ?_ (fun _ _ _ never _ => never) ?_
    · rintro axis number _ _ - ⟨rfl, on⟩ ⟨coordinate, normalizedHere, rfl⟩
      obtain ⟨position, -, mapped⟩ := on.exists_valuePixel narrow normalizedHere
      exact ⟨position, mapped⟩
    · rintro _ color _ - rfl
      exact ⟨_, rfl⟩
  simp only [pixelShape, Shape.mapM_eq_ok]
  exact onPixels.exists_next (fun _ _ _ mapped => mapped) (fun _ _ => False.elim)
    fun _ _ styled => styled

theorem Fits.exists_shapeTexts (fits : Fits canvas pixels) (narrow : Narrow canvas)
    (normalized : Reading.normalize canvas pixels = .ok result) {positions : PixelShape}
    (mapped : pixelShape canvas (toScene result) = .ok positions) :
    ∃ texts, shapeTexts positions = .ok texts := by
  have small : Shape.Related (fun _ _ position => |position| ≤ 2 ^ 50)
      (fun _ _ => False) (fun _ _ => True) pixels positions := by
    refine fits.related.trans (related_pixelShape narrow normalized mapped) ?_
      (fun _ _ _ never _ => never) fun _ _ _ _ _ => trivial
    rintro axis number _ position - ⟨rfl, on⟩ same
    obtain ⟨_, known, bound⟩ := on.exists_position narrow
    rw [same on] at known
    cases known
    exact bound
  simp only [shapeTexts, Shape.mapM_eq_ok]
  exact small.exists_next (fun _ _ _ => exists_written) (fun _ _ => False.elim)
    fun _ style _ => ⟨style, rfl⟩

/-- A shape that fits can be normalized and drawn again. -/
theorem Fits.exists_shapeNode (fits : Fits canvas pixels) (narrow : Narrow canvas) :
    ∃ result node, Reading.normalize canvas pixels = .ok result ∧
      shapeNode canvas (toScene result) = .ok node := by
  obtain ⟨result, normalized⟩ := fits.exists_normalize narrow
  obtain ⟨positions, mapped⟩ := fits.exists_pixelShape narrow normalized
  obtain ⟨texts, written⟩ := fits.exists_shapeTexts narrow normalized mapped
  have drawn : shapeNode canvas (toScene result) = .ok _ :=
    exceptBind_eq_ok.2 ⟨positions, mapped, map_eq_ok.2 ⟨texts, written, rfl⟩⟩
  exact ⟨result, _, normalized, drawn⟩

/-- An element that keeps a shape which fits is read as the shape. -/
theorem Keeps.shape (keeps : Keeps canvas pixels node) (fits : Fits canvas pixels) :
    Reading.shape pixels.kind node = .ok pixels := by
  refine Shape.mapM_eq_ok.2 (keeps.scalars.trans fits.related ?_ ?_ ?_)
  · rintro axis name _ number - read ⟨rfl, on⟩
    exact read on
  · rintro _ _ _ - ⟨⟩
  · rintro _ _ _ - rfl
    exact keeps.color

/-- An image that is shown by an element which keeps a shape that fits is the shape. -/
theorem Keeps.eq_asRead {shown : PixelImage} (keeps : Keeps canvas pixels node)
    (fits : Fits canvas pixels) (shows : Shows node shown) :
    pixels = asRead shown ∧ ∀ position ∈ shown.scalars, |position| < 2 ^ 1024 - 2 ^ 970 := by
  have read := keeps.shape fits
  have same : shown.kind = pixels.kind :=
    Kind.tag_injective (Option.some.inj (shows.tag?.symm.trans keeps.tag))
  rw [← same] at read
  have small : ∀ position ∈ shown.scalars, |position| < 2 ^ 1024 - 2 ^ 970 := by
    intro position member
    by_contra large
    obtain ⟨name, text, refused, -⟩ := shows.refuses ⟨position, member, not_lt.1 large⟩
    rw [read] at refused
    cases refused
  have shownRead := shows.reads small
  rw [read] at shownRead
  exact ⟨Except.ok.inj shownRead, small⟩

end

end VectorScene.Drawing
