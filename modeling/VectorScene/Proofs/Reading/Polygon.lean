import VectorScene.Proofs.Points.Scan
import VectorScene.Proofs.Reading.Strict

/-!
# Reading polygons

A polygon is read exactly when its attribute lists points, and then all coordinates in it
are vertices, in order.  The elements before it and after it are read as without it.
-/

namespace VectorScene.Reading

open VectorScene.Markup VectorScene.Points

/-! ## Attributes -/

section

variable {node : Node String} {name text : String} {found : Cut}

/-- An attribute that lists points is read as the values of its coordinates. -/
theorem points_of_lists (listed : node.get? name = some text) (scanned : Scans text.toList found)
    (lists : found.Lists) {vertices : List (Number × Number)} :
    points node name = .ok vertices ↔ Values found.tokens vertices := by
  obtain rfl := scans_iff.1 scanned
  obtain ⟨others, values⟩ := exists_values lists.even scanned.form
  have read := (parse_eq_ok lists).2 values
  rw [points, listed]
  simp only [Cut.wellFormed_iff.2 lists, if_true, read]
  rw [← parse_eq_ok lists, read, Except.ok.injEq, Except.ok.injEq]

/-- An attribute that lists no points is not read. -/
theorem points_of_not_lists (listed : node.get? name = some text)
    (scanned : Scans text.toList found) (unlisted : ¬found.Lists) :
    points node name = .error (.invalidAttribute name text) := by
  obtain rfl := scans_iff.1 scanned
  rw [points, listed]
  simp only [mt Cut.wellFormed_iff.1 unlisted, Bool.false_eq_true, if_false]

end

/-! ## Elements among others -/

/-- Elements are read one after the other. -/
theorem shapes_append (settings : Settings) (before after : List (Kind × Node String)) :
    shapes settings (before ++ after) = do
      let first ← shapes settings before
      let rest ← shapes settings after
      return first ++ rest := by
  induction before with
  | nil => simp only [List.nil_append, shapes, pure_bind, bind_pure]
  | cons element before ih =>
      obtain ⟨kind, node⟩ := element
      rw [List.cons_append, shapes, shapes]
      cases shape kind node with
      | ok pixels => simp only [ih, bind_assoc, pure_bind, List.cons_append]
      | error cause =>
          dsimp only
          split
          · rfl
          · rw [ih, bind_assoc]

section

variable {settings : Settings} {groupId : Option String} {tree : Node String}
  {before after : List (Kind × Node String)} {kind : Kind} {node : Node String}

/-- An element that is read in pixels adds its shape to those of the others. -/
theorem ofTree_of_ok (inPixels : settings.normalize.isOn = false)
    (elements : elements? groupId tree = some (before ++ (kind, node) :: after))
    {pixels : ReadShape} (read : shape kind node = .ok pixels) :
    ofTree settings groupId tree = do
      let first ← shapes settings before
      let rest ← shapes settings after
      return first ++ pixels :: rest := by
  have finished : finish settings pixels = .ok pixels := by
    rw [finish, inPixels]
    rfl
  rw [ofTree_eq_shapes elements, shapes_append, shapes, read]
  simp only [finished, Run.ofExcept_ok_bind, bind_assoc, pure_bind]

/-- An element that cannot be read is skipped, or ends a strict reading. -/
theorem ofTree_of_error
    (elements : elements? groupId tree = some (before ++ (kind, node) :: after))
    {cause : Defect} (unreadable : shape kind node = .error cause) :
    ofTree settings groupId tree = do
      let first ← shapes settings before
      if settings.strict.isOn then Run.fail (.defect cause) else
      Run.warn (.skipped kind cause)
      let rest ← shapes settings after
      return first ++ rest := by
  rw [ofTree_eq_shapes elements, shapes_append, shapes, unreadable]
  congr 1
  funext first
  dsimp only
  split
  · rfl
  · rw [bind_assoc]

end

/-! ## Polygons -/

theorem shape_polygon {node : Node String} {color : Int}
    (colored : Stroke.read (node.get? "style") = .ok color) :
    shape .polygon node = (points node "points").map (.polygon · color) := by
  rw [shape, Kind.template, Shape.mapM]
  cases points node "points" with
  | error cause => rfl
  | ok vertices =>
      change (do return Shape.polygon vertices (← Stroke.read (node.get? "style"))) = _
      rw [colored]
      rfl

/-- A polygon of a readable color is read exactly when its attribute lists points, and
its vertices are then the values of all coordinates in it, two for each vertex.  Nothing
else in the text matters: a text that is assembled from coordinates with separators
between them has these coordinates. -/
theorem ofTree_polygon {settings : Settings} (inPixels : settings.normalize.isOn = false)
    {groupId : Option String} {tree node : Node String} {before after : List (Kind × Node String)}
    (elements : elements? groupId tree = some (before ++ (.polygon, node) :: after))
    {text : String} (listed : node.get? "points" = some text) {color : Int}
    (colored : Stroke.read (node.get? "style") = .ok color) :
    ∃ found, (∀ other, Scans text.toList other ↔ other = found) ∧ found.join = text.toList ∧
      (found.Lists → ∃ vertices,
        (∀ others, Values found.tokens others ↔ others = vertices) ∧
        2 * vertices.length = found.tokens.length ∧
        shape .polygon node = .ok (.polygon vertices color) ∧
        ofTree settings groupId tree = do
          let first ← shapes settings before
          let rest ← shapes settings after
          return first ++ .polygon vertices color :: rest) ∧
      (¬found.Lists →
        shape .polygon node = .error (.invalidAttribute "points" text) ∧
        ofTree settings groupId tree = do
          let first ← shapes settings before
          if settings.strict.isOn then Run.fail (.defect (.invalidAttribute "points" text)) else
          Run.warn (.skipped .polygon (.invalidAttribute "points" text))
          let rest ← shapes settings after
          return first ++ rest) ∧
      ∀ assembled : Cut, assembled.Apart → assembled.Lists → assembled.join = text.toList →
        assembled = found := by
  have scanned : Scans text.toList (cut text.toList) := scans_iff.2 rfl
  refine ⟨cut text.toList, fun _ => scans_iff, join_cut text.toList, ?_, ?_, ?_⟩
  · intro lists
    obtain ⟨vertices, values⟩ := exists_values lists.even scanned.form
    have read := (points_of_lists listed scanned lists).2 values
    have shaped : shape .polygon node = .ok (.polygon vertices color) := by
      rw [shape_polygon colored, read]
      rfl
    refine ⟨vertices, ?_, values.length_eq, shaped, ofTree_of_ok inPixels elements shaped⟩
    intro others
    rw [← points_of_lists listed scanned lists, read, Except.ok.injEq, eq_comm]
  · intro unlisted
    have shaped : shape .polygon node = .error (.invalidAttribute "points" text) := by
      rw [shape_polygon colored, points_of_not_lists listed scanned unlisted]
      rfl
    exact ⟨shaped, ofTree_of_error elements shaped⟩
  · intro assembled apart lists same
    exact scans_iff.1 (same ▸ apart.scans lists)

/-- Four coordinates with blanks and a comma between them. -/
def spacedPoints : Cut :=
  ⟨[' '], [(['1'], [',', '\n']), (['-', '2'], [' ']), (['.', '5'], ['\t', ',']), (['3'], [])]⟩

/-- A polygon with spaced points, and one with two commas between its coordinates. -/
def polygonTree : Node String :=
  .element "svg" [] none
    [.element "polygon" [("points", " 1,\n-2 .5\t,3"), ("style", "stroke:#993399")] none [] none,
     .element "polygon" [("points", "1,,2"), ("style", "stroke:#993399")] none [] none]
    none

/-- The first polygon is read, and the second one is skipped. -/
theorem ofTree_polygon_spaced :
    let settings : Settings := ⟨⟨400, 400, by decide, by decide⟩, .flag false, .absent, .absent⟩
    ofTree settings none polygonTree =
      ⟨[.skipped .polygon (.invalidAttribute "points" "1,,2")],
        .ok [.polygon
          [(.integer 1, .integer (-2)), (.real (.ofRat (1 / 2)), .integer 3)] 0x993399FF]⟩ := by
  intro settings
  have elements : elements? none polygonTree =
      some ([] ++ (.polygon, .element "polygon"
          [("points", " 1,\n-2 .5\t,3"), ("style", "stroke:#993399")] none [] none) ::
        [(.polygon, .element "polygon"
          [("points", "1,,2"), ("style", "stroke:#993399")] none [] none)]) := by
    decide +kernel
  have colored : Stroke.read (some "stroke:#993399") = .ok 0x993399FF := by decide +kernel
  have lists : spacedPoints.Lists := Cut.wellFormed_iff.1 (by decide)
  have apart : spacedPoints.Apart := by
    refine ⟨?_, by decide⟩
    have coordinates : ∀ token ∈ spacedPoints.tokens,
        splitCoordinate? token = some (token, []) := by decide
    exact fun token member => isCoordinate_iff.1 (coordinates token member)
  have values : Values spacedPoints.tokens
      [(.integer 1, .integer (-2)), (.real (.ofRat (1 / 2)), .integer 3)] :=
    .cons (by decide +kernel) (by decide +kernel)
      (.cons (by decide +kernel) (by decide +kernel) .nil)
  have inPixels : settings.normalize.isOn = false := rfl
  obtain ⟨found, -, -, read, -, same⟩ := ofTree_polygon inPixels elements rfl colored
  obtain rfl := same spacedPoints apart lists (by decide)
  obtain ⟨vertices, known, -, -, whole⟩ := read lists
  obtain rfl := (known _).1 values
  rw [whole]
  decide +kernel

end VectorScene.Reading
