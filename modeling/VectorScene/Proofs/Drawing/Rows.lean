import VectorScene.Proofs.Canvas.Rows
import VectorScene.Proofs.Drawing.Order

/-!
# Polygons with rows of any lengths

A polygon of pairs has one vertex for each row.  Other rows are regrouped two by two or
refused, and with them the whole scene.
-/

namespace VectorScene.Drawing

open VectorScene.Canvas VectorScene.Markup

section

variable {Thing : Type} [Shown Thing] {settings : Settings} {scene : List (Command Thing)}

/-- A scene with a shape that cannot be drawn is not drawn. -/
theorem exists_error_of_shape {shape : SceneShape} {fault : Fault}
    (member : .shape shape ∈ flatten scene)
    (fails : shapeNode settings.canvas shape = .error fault) :
    ∃ other, (ofScene settings scene).outcome = .error other := by
  cases ran : ofScene settings scene with
  | mk warnings outcome =>
      cases outcome with
      | error other => exact ⟨other, rfl⟩
      | ok document =>
          obtain ⟨leaves, -⟩ := ofScene_eq_ok.1 ran
          have draws := draws_of_leafNodes (congrArg Run.outcome leaves)
          have inside : shape ∈ drawnShapes (flatten scene) :=
            List.mem_filterMap.2 ⟨_, member, rfl⟩
          obtain ⟨node, -, drawn⟩ := exists_right draws.nodes inside
          cases drawn.symm.trans fails

/-- A polygon whose rows cannot be mapped cannot be drawn. -/
theorem shapeNode_polygon {canvas : Canvas} {rows : List Row} {fault : Fault}
    (fails : pixels rows (extentValue canvas .x) (extentValue canvas .y) = .error fault)
    (color : Value) : shapeNode canvas (.polygon rows color) = .error fault := by
  rw [shapeNode, pixelShape, Shape.mapM, fails]
  rfl

end

/-- Rows of two numbers each have their image as a vertex, in order.  Rows of other lengths
are regrouped two by two, to another number of vertices, when they all have one length and the
rounded images fit 64 bits.  Otherwise they are refused, and no scene with a polygon that has
them is drawn. -/
theorem pixels_rows (settings : Settings) (smallWidth : settings.canvas.width < 2 ^ 63)
    (smallHeight : settings.canvas.height < 2 ^ 63) (rows : List (List Number)) :
    let width := settings.canvas.width
    let height := settings.canvas.height
    let mapped := pixels (rows.map Row.ofNumbers) (.number (.integer width))
      (.number (.integer height))
    ((∀ row ∈ rows, row.length = 2) →
      ∀ images, mapped = .ok images → List.Forall₂ (IsImage width height) rows images) ∧
    ((∃ row ∈ rows, row.length ≠ 2) →
      (∃ points images, Regroups rows points ∧
        List.Forall₂ (RoundsTo width height) points images ∧
        images.length ≠ rows.length ∧ mapped = .ok images) ∨
      ((¬∃ points images, Regroups rows points ∧
          List.Forall₂ (RoundsTo width height) points images) ∧
        (mapped = .error .unevenRows ∨ mapped = .error .rowNotPair) ∧
        ∀ {Thing : Type} [Shown Thing] (scene : List (Command Thing)) color,
          .shape (.polygon (rows.map Row.ofNumbers) color) ∈ flatten scene →
          ∃ fault, (ofScene settings scene).outcome = .error fault)) := by
  intro width height mapped
  have positiveWidth := settings.canvas.width_pos
  have positiveHeight := settings.canvas.height_pos
  refine ⟨fun pairs images =>
    forall_isImage positiveWidth smallWidth positiveHeight smallHeight pairs, fun malformed => ?_⟩
  rcases pixels_malformed positiveWidth smallWidth positiveHeight smallHeight malformed with
    ⟨points, images, regroups, roundsTo, same⟩ | ⟨none, refused⟩
  · have count : images.length ≠ rows.length := by
      rw [← roundsTo.length_eq]
      exact regroups.length_ne malformed
    exact .inl ⟨points, images, regroups, roundsTo, count, same⟩
  · refine .inr ⟨none, refused, ?_⟩
    intro Thing _ scene color member
    rcases refused with uneven | notPair
    · exact exists_error_of_shape member (shapeNode_polygon uneven color)
    · exact exists_error_of_shape member (shapeNode_polygon notPair color)

/-- Rows of whole numbers. -/
def wholeRows (rows : List (List Int)) : List (List Number) :=
  rows.map (List.map Number.integer)

/-- Two rows of three numbers make three vertices, and rows of three numbers and one are
refused. -/
theorem pixels_rows_triples :
    let settings : Settings := ⟨⟨400, 400, by decide, by decide⟩, .flag false, .absent, .absent⟩
    (∃ points, Regroups (wholeRows [[0, 0, 0], [1, 1, 1]]) points ∧
      List.Forall₂ (RoundsTo 400 400) points [(200, 200), (200, 400), (400, 400)]) ∧
    let scene : List Command :=
      [.glow [.shape (.polygon ((wholeRows [[0, 0, 0], [1]]).map Row.ofNumbers) .absent)]]
    ∃ fault, (ofScene settings scene).outcome = .error fault := by
  intro settings
  have small : (400 : Int) < 2 ^ 63 := by decide
  constructor
  · have mapped : pixels ((wholeRows [[0, 0, 0], [1, 1, 1]]).map Row.ofNumbers)
        (.number (.integer 400)) (.number (.integer 400)) =
          .ok [(200, 200), (200, 400), (400, 400)] := by
      decide +kernel
    obtain ⟨-, malformed⟩ := pixels_rows settings small small
      (wholeRows [[0, 0, 0], [1, 1, 1]])
    obtain ⟨points, images, regroups, roundsTo, -, same⟩ | ⟨-, uneven | notPair, -⟩ :=
      malformed ⟨_, List.mem_cons_self, by decide⟩
    · cases same.symm.trans mapped
      exact ⟨points, regroups, roundsTo⟩
    · cases uneven.symm.trans mapped
    · cases notPair.symm.trans mapped
  · obtain ⟨-, malformed⟩ := pixels_rows settings small small
      (wholeRows [[0, 0, 0], [1]])
    obtain ⟨points, images, regroups, -⟩ | ⟨-, -, refused⟩ :=
      malformed ⟨_, List.mem_cons_self, by decide⟩
    · obtain ⟨size, level⟩ := regroups.level
      have three := level _ List.mem_cons_self
      have one := level _ (List.mem_cons_of_mem _ List.mem_cons_self)
      cases three.trans one.symm
    · exact refused _ _ List.mem_cons_self

/-- A row of four numbers is mapped to two vertices, and drawn as a polygon with these. -/
theorem not_pixels_row_refused :
    let settings : Settings := ⟨⟨400, 400, by decide, by decide⟩, .flag false, .absent, .absent⟩
    let rows := (wholeRows [[0, 0, 0, 0]]).map Row.ofNumbers
    let scene : List Command := [.shape (.polygon rows (.number (.integer 0x993399FF)))]
    pixels rows (.number (.integer 400)) (.number (.integer 400)) =
        .ok [(200, 200), (200, 200)] ∧
      ofScene settings scene =
        ⟨[], .ok ⟨"400", "400", .absent,
          [shape .polygon ["200,200 200,200"] [("style", "fill:none;stroke:#993399")]]⟩⟩ := by
  decide +kernel

end VectorScene.Drawing
