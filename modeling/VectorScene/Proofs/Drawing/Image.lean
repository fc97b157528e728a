import VectorScene.Drawing.Scene
import VectorScene.Proofs.Scene.Shape
import VectorScene.Proofs.Stroke
import VectorScene.Reading

/-!
# Images of shapes

The image of a shape is what a drawing shows of it: its coordinates in pixels, and
the opaque part of its color.
-/

namespace VectorScene.Drawing

open VectorScene.Reading

/-- A shape in pixels with an opaque color. -/
abbrev PixelImage := Shape Int (List (Int × Int)) Int

/-- The color that is kept of a scene value. -/
def keptColor : Value → Except Fault Int
  | .flag value => .ok (Stroke.kept (if value then 1 else 0))
  | .number (.integer color) => .ok (Stroke.kept color)
  | _ => .error .colorNotInteger

/-- The pixel of a value along the width of a canvas. -/
def alongWidth (canvas : Canvas) (value : Value) : Except Fault Int :=
  Canvas.valuePixel value (.number (.integer canvas.width))

/-- The pixel of a value along the height of a canvas. -/
def alongHeight (canvas : Canvas) (value : Value) : Except Fault Int :=
  Canvas.valuePixel value (.number (.integer canvas.height))

/-- The image of a shape. -/
def image (canvas : Canvas) : SceneShape → Except Fault PixelImage
  | .line x1 y1 x2 y2 color => do
      return .line (← alongWidth canvas x1) (← alongHeight canvas y1) (← alongWidth canvas x2)
        (← alongHeight canvas y2) (← keptColor color)
  | .circle cx cy r color => do
      return .circle (← alongWidth canvas cx) (← alongHeight canvas cy) (← alongWidth canvas r)
        (← keptColor color)
  | .rect x y width height color => do
      return .rect (← alongWidth canvas x) (← alongHeight canvas y) (← alongWidth canvas width)
        (← alongHeight canvas height) (← keptColor color)
  | .polygon rows color => do
      return .polygon
        (← Canvas.pixels rows (.number (.integer canvas.width)) (.number (.integer canvas.height)))
        (← keptColor color)
  | .ellipse cx cy rx ry color => do
      return .ellipse (← alongWidth canvas cx) (← alongHeight canvas cy) (← alongWidth canvas rx)
        (← alongHeight canvas ry) (← keptColor color)

/-- An image as it is read. -/
def asRead : PixelImage → ReadShape
  | .line x1 y1 x2 y2 color =>
      .line (.integer x1) (.integer y1) (.integer x2) (.integer y2) color
  | .circle cx cy r color => .circle (.integer cx) (.integer cy) (.integer r) color
  | .rect x y width height color =>
      .rect (.integer x) (.integer y) (.integer width) (.integer height) color
  | .polygon vertices color =>
      .polygon (vertices.map fun point => (.integer point.1, .integer point.2)) color
  | .ellipse cx cy rx ry color =>
      .ellipse (.integer cx) (.integer cy) (.integer rx) (.integer ry) color

theorem alongWidth_eq (canvas : Canvas) (value : Value) :
    alongWidth canvas value = Canvas.valuePixel value (extentValue canvas .x) := rfl

theorem alongHeight_eq (canvas : Canvas) (value : Value) :
    alongHeight canvas value = Canvas.valuePixel value (extentValue canvas .y) := rfl

theorem keptColor_of_style {color : Value} {style : String}
    (styled : Stroke.style color = .ok style) :
    ∃ kept, keptColor color = .ok kept ∧ Stroke.read (some style) = .ok kept := by
  obtain ⟨text, written, rfl⟩ := map_eq_ok.1 styled
  unfold Stroke.valueWritten at written
  split at written
  next =>
    cases written
    exact ⟨_, rfl, Stroke.read_written _⟩
  next =>
    cases written
    exact ⟨_, rfl, Stroke.read_written _⟩
  next => cases written

/-- A shape that is mapped to pixels has the pixels in its image, and the color
that its style is read as. -/
theorem exists_image {canvas : Canvas} {scene : SceneShape} {pixels : PixelShape}
    (mapped : pixelShape canvas scene = .ok pixels) :
    ∃ shown, image canvas scene = .ok shown ∧
      Shape.Related (fun _ => Eq) Eq (fun style color => Stroke.read (some style) = .ok color)
        pixels shown := by
  have related := Shape.mapM_eq_ok.1 mapped
  cases related with
  | line x1 y1 x2 y2 color =>
      obtain ⟨kept, inScene, inStyle⟩ := keptColor_of_style color
      refine ⟨.line _ _ _ _ kept, ?_, .line rfl rfl rfl rfl inStyle⟩
      rw [image, alongWidth_eq, alongHeight_eq, alongWidth_eq, alongHeight_eq, x1, y1, x2, y2,
        inScene]
      rfl
  | circle cx cy r color =>
      obtain ⟨kept, inScene, inStyle⟩ := keptColor_of_style color
      refine ⟨.circle _ _ _ kept, ?_, .circle rfl rfl rfl inStyle⟩
      rw [image, alongWidth_eq, alongHeight_eq, alongWidth_eq, cx, cy, r, inScene]
      rfl
  | rect x y width height color =>
      obtain ⟨kept, inScene, inStyle⟩ := keptColor_of_style color
      refine ⟨.rect _ _ _ _ kept, ?_, .rect rfl rfl rfl rfl inStyle⟩
      rw [image, alongWidth_eq, alongHeight_eq, alongWidth_eq, alongHeight_eq, x, y, width, height,
        inScene]
      rfl
  | polygon points color =>
      obtain ⟨kept, inScene, inStyle⟩ := keptColor_of_style color
      refine ⟨.polygon _ kept, ?_, .polygon rfl inStyle⟩
      have mappedPoints : Canvas.pixels _ (.number (.integer canvas.width))
          (.number (.integer canvas.height)) = .ok _ := points
      rw [image, mappedPoints, inScene]
      rfl
  | ellipse cx cy rx ry color =>
      obtain ⟨kept, inScene, inStyle⟩ := keptColor_of_style color
      refine ⟨.ellipse _ _ _ _ kept, ?_, .ellipse rfl rfl rfl rfl inStyle⟩
      rw [image, alongWidth_eq, alongHeight_eq, alongWidth_eq, alongHeight_eq, cx, cy, rx, ry,
        inScene]
      rfl

end VectorScene.Drawing
