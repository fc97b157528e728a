import VectorScene.Proofs.Canvas.Normalized
import VectorScene.Proofs.Scene.Shape
import VectorScene.Reading

/-!
# Normalizing shapes

A shape is normalized coordinate by coordinate.  What is known of single
coordinates tells whether a shape can be normalized, and whether all coordinates of
the result are finite.
-/

namespace VectorScene.Reading

/-- The coordinates of a shape in order, each with its axis. -/
def coordinates : ReadShape → List (Axis × Number)
  | .line x1 y1 x2 y2 _ => [(.x, x1), (.y, y1), (.x, x2), (.y, y2)]
  | .circle cx cy r _ => [(.x, cx), (.y, cy), (.x, r)]
  | .rect x y width height _ => [(.x, x), (.y, y), (.x, width), (.y, height)]
  | .polygon vertices _ => vertices.flatMap fun vertex => [(.x, vertex.1), (.y, vertex.2)]
  | .ellipse cx cy rx ry _ => [(.x, cx), (.y, cy), (.x, rx), (.y, ry)]

/-- Normalize a coordinate along its axis. -/
def normalizeCoordinate (canvas : Canvas) (coordinate : Axis × Number) : Except Fault Number :=
  normalizeScalar canvas coordinate.1 coordinate.2

/-- Normalize a vertex, x before y. -/
def normalizeVertex (canvas : Canvas) (vertex : Number × Number) :
    Except Fault (Number × Number) := do
  let x ← normalizeScalar canvas .x vertex.1
  let y ← normalizeScalar canvas .y vertex.2
  return (x, y)

theorem map_normalize_vertices (canvas : Canvas) (vertices : List (Number × Number)) :
    (fun results => results.flatMap fun vertex : Number × Number => [vertex.1, vertex.2]) <$>
        vertices.mapM (normalizeVertex canvas) =
      (vertices.flatMap fun vertex => [(Axis.x, vertex.1), (Axis.y, vertex.2)]).mapM
        (normalizeCoordinate canvas) := by
  induction vertices with
  | nil => rfl
  | cons vertex rest ih =>
      obtain ⟨x, y⟩ := vertex
      simp [normalizeVertex, normalizeCoordinate, ← ih]

/-- A shape is normalized by normalizing its coordinates in order. -/
theorem map_coordinates_normalize (canvas : Canvas) (pixels : ReadShape) :
    (fun result => (coordinates result).map Prod.snd) <$> normalize canvas pixels =
      (coordinates pixels).mapM (normalizeCoordinate canvas) := by
  have kept : (Except.ok : Int → Except Fault Int) = pure := rfl
  cases pixels with
  | line x1 y1 x2 y2 color =>
      simp [normalize, Shape.mapM, coordinates, normalizeCoordinate, kept]
  | circle cx cy r color =>
      simp [normalize, Shape.mapM, coordinates, normalizeCoordinate, kept]
  | rect x y width height color =>
      simp [normalize, Shape.mapM, coordinates, normalizeCoordinate, kept]
  | polygon vertices color =>
      rw [coordinates, ← map_normalize_vertices]
      simp [normalize, Shape.mapM, coordinates, kept, List.map_flatMap]
      rfl
  | ellipse cx cy rx ry color =>
      simp [normalize, Shape.mapM, coordinates, normalizeCoordinate, kept]

/-! ## Single coordinates -/

section

variable {canvas : Canvas} {coordinate : Axis × Number} {pixels result : ReadShape}

theorem extent_pos (canvas : Canvas) (axis : Axis) : 0 < canvas.extent axis := by
  cases axis with
  | x => exact canvas.width_pos
  | y => exact canvas.height_pos

theorem normalizeCoordinate_of_tooLarge
    (large : Canvas.TooLarge (canvas.extent coordinate.1) coordinate.2) :
    normalizeCoordinate canvas coordinate = .error .beyondBinary64 := by
  rw [normalizeCoordinate, normalizeScalar,
    Canvas.normalizedOn_of_tooLarge (extent_pos canvas coordinate.1) large]
  rfl

theorem exists_normalizeCoordinate
    (small : ¬Canvas.TooLarge (canvas.extent coordinate.1) coordinate.2) :
    ∃ number, normalizeCoordinate canvas coordinate = .ok number ∧
      (number.isFinite = true ↔ Canvas.StaysFinite coordinate.2) := by
  obtain ⟨value, normalized, finite⟩ :=
    Canvas.exists_normalizedOn (extent_pos canvas coordinate.1) small
  refine ⟨.real value, ?_, finite⟩
  rw [normalizeCoordinate, normalizeScalar, normalized]
  rfl

theorem isFinite_normalizeCoordinate {number : Number}
    (normalized : normalizeCoordinate canvas coordinate = .ok number) :
    number.isFinite = true ↔ Canvas.StaysFinite coordinate.2 := by
  by_cases large : Canvas.TooLarge (canvas.extent coordinate.1) coordinate.2
  · rw [normalizeCoordinate_of_tooLarge large] at normalized
    cases normalized
  · obtain ⟨other, same, finite⟩ := exists_normalizeCoordinate large
    rw [normalized] at same
    cases same
    exact finite

/-! ## Shapes -/

/-- A shape with a coordinate that is too large cannot be normalized. -/
theorem normalize_of_tooLarge (member : coordinate ∈ coordinates pixels)
    (large : Canvas.TooLarge (canvas.extent coordinate.1) coordinate.2) :
    normalize canvas pixels = .error .beyondBinary64 := by
  have only : ∀ other ∈ coordinates pixels, ∀ fault,
      normalizeCoordinate canvas other = .error fault → fault = .beyondBinary64 := by
    intro other _ fault failed
    by_cases largeOther : Canvas.TooLarge (canvas.extent other.1) other.2
    · rw [normalizeCoordinate_of_tooLarge largeOther] at failed
      cases failed
      rfl
    · obtain ⟨_, normalized, -⟩ := exists_normalizeCoordinate largeOther
      rw [failed] at normalized
      cases normalized
  have failed := mapM_eq_error only ⟨coordinate, member, normalizeCoordinate_of_tooLarge large⟩
  rw [← map_coordinates_normalize] at failed
  cases normalized : normalize canvas pixels with
  | error fault =>
      rw [normalized] at failed
      cases failed
      rfl
  | ok result =>
      rw [normalized] at failed
      cases failed

/-- Any other shape can be normalized. -/
theorem exists_normalize
    (small : ∀ coordinate ∈ coordinates pixels,
      ¬Canvas.TooLarge (canvas.extent coordinate.1) coordinate.2) :
    ∃ result, normalize canvas pixels = .ok result := by
  have all : ∀ coordinate ∈ coordinates pixels,
      ∃ number, normalizeCoordinate canvas coordinate = .ok number := by
    intro coordinate member
    obtain ⟨number, normalized, -⟩ := exists_normalizeCoordinate (small coordinate member)
    exact ⟨number, normalized⟩
  obtain ⟨numbers, succeeded⟩ := exists_mapM_eq_ok all
  rw [← map_coordinates_normalize] at succeeded
  obtain ⟨result, normalized, -⟩ := map_eq_ok.1 succeeded
  exact ⟨result, normalized⟩

/-- A normalized shape is finite when all coordinates stay finite. -/
theorem isFinite_normalize (normalized : normalize canvas pixels = .ok result) :
    (∀ coordinate ∈ coordinates result, coordinate.2.isFinite = true) ↔
      ∀ coordinate ∈ coordinates pixels, Canvas.StaysFinite coordinate.2 := by
  have mapped := map_coordinates_normalize canvas pixels
  rw [normalized] at mapped
  have related := forall_iff (mapM_eq_ok.1 mapped.symm) fun _ _ done =>
    (isFinite_normalizeCoordinate done).symm
  rw [related, List.forall_mem_map]

end

end VectorScene.Reading
