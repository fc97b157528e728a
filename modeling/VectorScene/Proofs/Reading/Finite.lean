import VectorScene.Proofs.Reading.Normalize
import VectorScene.Proofs.Reading.Strict
import VectorScene.Proofs.Stroke

/-!
# Finite shapes

The scalars of a shape are checked when they are read, and the vertices of a
polygon are not.  So a shape in pixels is finite up to its vertices.  Normalizing
doubles a coordinate first, which can leave the range of finite numbers.
-/

namespace VectorScene.Reading

open VectorScene.Markup

/-- The numbers of the vertices of a shape. -/
def vertexNumbers : ReadShape → List Number
  | .polygon vertices _ => vertices.flatMap fun vertex => [vertex.1, vertex.2]
  | _ => []

/-- All numbers of a shape: its scalars, its vertices and its color. -/
def numbers (result : ReadShape) : List Number :=
  result.scalars ++ vertexNumbers result ++ [.integer result.color]

/-- A shape in pixels that is finite when it is finished. -/
def EndsFinite (settings : Settings) (pixels : ReadShape) : Prop :=
  if settings.normalize.isOn then
    ∀ coordinate ∈ coordinates pixels, Canvas.StaysFinite coordinate.2
  else ∀ number ∈ vertexNumbers pixels, number.isFinite = true

/-- The shapes of a document or of its group in pixels, without what cannot be
read. -/
def pixelShapes (groupId : Option String) (tree : Node String) : List ReadShape :=
  ((elements? groupId tree).getD []).filterMap fun element =>
    (shape element.1 element.2).toOption

/-! ## Numbers that are read -/

section

variable {node : Node String} {kind : Kind} {pixels result : ReadShape} {settings : Settings}

/-- Only finite numbers are read from attributes. -/
theorem isFinite_number {name : String} {value : Number} (read : number node name = .ok value) :
    value.isFinite = true := by
  rw [number] at read
  split at read
  next => cases read
  next =>
    split at read
    next =>
      split at read
      next finite =>
        cases read
        exact finite
      next => cases read
    next => cases read

theorem isFinite_scalars (read : shape kind node = .ok pixels) :
    ∀ value ∈ pixels.scalars, value.isFinite = true :=
  (Shape.mapM_eq_ok.1 read).forall_scalars fun _ _ _ => isFinite_number

theorem color_bounds (read : shape kind node = .ok pixels) :
    0 ≤ pixels.color ∧ pixels.color < 2 ^ 32 :=
  Stroke.read_bounds (Shape.mapM_eq_ok.1 read).color_related

theorem color_finish (finished : finish settings pixels = .ok result) :
    result.color = pixels.color := by
  rw [finish] at finished
  split at finished
  next => exact (Except.ok.inj (Shape.mapM_eq_ok.1 finished).color_related).symm
  next =>
    cases finished
    rfl

/-! ## Numbers of a shape -/

theorem isFinite_color (small : 0 ≤ result.color ∧ result.color < 2 ^ 32) :
    (Number.integer result.color).isFinite = true := by
  have bound : (2 : Int) ^ 32 ≤ 2 ^ 1024 - 2 ^ 970 := by decide +kernel
  rw [Number.isFinite_integer, abs_of_nonneg small.1]
  exact lt_of_lt_of_le small.2 bound

/-- The coordinates of a shape are its scalars and those of its vertices. -/
theorem map_coordinates (pixels : ReadShape) :
    (coordinates pixels).map Prod.snd = pixels.scalars ++ vertexNumbers pixels := by
  cases pixels with
  | polygon vertices color => simp [coordinates, Shape.scalars, vertexNumbers, List.map_flatMap]
  | line x1 y1 x2 y2 color => rfl
  | circle cx cy r color => rfl
  | rect x y width height color => rfl
  | ellipse cx cy rx ry color => rfl

theorem isFinite_coordinates (pixels : ReadShape) :
    (∀ coordinate ∈ coordinates pixels, coordinate.2.isFinite = true) ↔
      ∀ value ∈ pixels.scalars ++ vertexNumbers pixels, value.isFinite = true := by
  rw [← map_coordinates, List.forall_mem_map]

/-- A shape is finite when its coordinates are, since its color always is. -/
theorem isFinite_numbers (small : 0 ≤ result.color ∧ result.color < 2 ^ 32) :
    (∀ value ∈ numbers result, value.isFinite = true) ↔
      ∀ coordinate ∈ coordinates result, coordinate.2.isFinite = true := by
  rw [isFinite_coordinates, numbers, List.forall_mem_append, List.forall_mem_singleton]
  exact and_iff_left (isFinite_color small)

/-- A shape that is read is finished with finite numbers exactly when it ends
finite. -/
theorem isFinite_finish (read : shape kind node = .ok pixels)
    (finished : finish settings pixels = .ok result) :
    (∀ value ∈ numbers result, value.isFinite = true) ↔ EndsFinite settings pixels := by
  have small : 0 ≤ result.color ∧ result.color < 2 ^ 32 := by
    rw [color_finish finished]
    exact color_bounds read
  rw [isFinite_numbers small]
  rw [finish] at finished
  rw [EndsFinite]
  split at finished
  next normalizing =>
    rw [if_pos normalizing]
    exact isFinite_normalize finished
  next inPixels =>
    cases finished
    rw [if_neg inPixels, isFinite_coordinates, List.forall_mem_append]
    exact and_iff_right (isFinite_scalars read)

end

/-! ## Documents -/

/-- What is read is what can be read, finished shape by shape. -/
theorem shapes_results (settings : Settings) {elements : List (Kind × Node String)}
    {results : List ReadShape} (ended : (shapes settings elements).outcome = .ok results) :
    List.Forall₂
      (fun pixels result => (∃ kind node, shape kind node = .ok pixels) ∧
        finish settings pixels = .ok result)
      (elements.filterMap fun element => (shape element.1 element.2).toOption) results := by
  induction elements generalizing results with
  | nil =>
      cases ended
      exact .nil
  | cons element rest ih =>
      obtain ⟨kind, node⟩ := element
      cases read : shape kind node with
      | error cause =>
          rw [List.filterMap_cons_none (by rw [read]; rfl)]
          cases strict : settings.strict.isOn with
          | false =>
              rw [shapes_lenient strict read] at ended
              exact ih ended
          | true =>
              rw [shapes_strict strict read] at ended
              cases ended
      | ok pixels =>
          rw [List.filterMap_cons_some (b := pixels) (by rw [read]; rfl)]
          cases finished : finish settings pixels with
          | error fault =>
              rw [shapes_unfinished read finished] at ended
              cases ended
          | ok result =>
              rw [shapes_finished read finished] at ended
              obtain ⟨others, later, rfl⟩ := map_eq_ok.1 ended
              exact .cons ⟨⟨kind, node, read⟩, finished⟩ (ih later)

/-- The shapes that a reading gives are those in pixels, and each is finite exactly
when that one ends finite. -/
theorem isFinite_ofTree (settings : Settings) (groupId : Option String) (tree : Node String)
    {results : List ReadShape} (ended : (ofTree settings groupId tree).outcome = .ok results) :
    List.Forall₂
      (fun pixels result =>
        (∀ value ∈ numbers result, value.isFinite = true) ↔ EndsFinite settings pixels)
      (pixelShapes groupId tree) results := by
  cases found : elements? groupId tree with
  | some elements =>
      rw [ofTree_eq_shapes found] at ended
      rw [pixelShapes, found]
      refine (shapes_results settings ended).imp ?_
      rintro pixels result ⟨⟨kind, node, read⟩, finished⟩
      exact isFinite_finish read finished
  | none =>
      rw [pixelShapes, found]
      cases groupId with
      | none => cases found
      | some id =>
          cases strict : settings.strict.isOn with
          | false =>
              rw [ofTree_missing_lenient found strict] at ended
              cases ended
              exact .nil
          | true =>
              rw [ofTree_missing_strict found strict] at ended
              cases ended

/-- A polygon with a vertex at infinity. -/
def endlessTree : Node String :=
  .element "svg" [] none
    [.element "polygon" [("points", "1e999,0"), ("style", "stroke:#993399")] none [] none]
    none

/-- The polygon is read, and is not finite. -/
theorem isFinite_ofTree_endless :
    let settings : Settings := ⟨⟨400, 400, by decide, by decide⟩, .absent, .flag false, .absent⟩
    let endless : ReadShape := .polygon [(.real (.infinity false), .integer 0)] 0x993399FF
    (ofTree settings none endlessTree).outcome = .ok [endless] ∧
      ∃ pixels ∈ pixelShapes none endlessTree, ¬EndsFinite settings pixels := by
  intro settings endless
  have ended : (ofTree settings none endlessTree).outcome = .ok [endless] := by
    decide +kernel
  have inPixels : pixelShapes none endlessTree = [endless] := by
    decide +kernel
  have infinite : ¬∀ value ∈ numbers endless, value.isFinite = true := by
    decide +kernel
  have matched := isFinite_ofTree settings none endlessTree ended
  rw [inPixels] at matched ⊢
  obtain ⟨finite, -⟩ := List.forall₂_cons.1 matched
  exact ⟨ended, endless, List.mem_singleton_self endless, fun ends => infinite (finite.2 ends)⟩

end VectorScene.Reading
