import VectorScene.Proofs.Points.Literal
import VectorScene.Proofs.Points.Pair
import VectorScene.Proofs.Reading.Polygon

/-!
# Numbers in scalars and in vertices

A finite number is read from a plain literal in the same way in a scalar attribute and in a
list of points.  Scalars are also read from literals that are not plain.
-/

namespace VectorScene.Reading

open VectorScene.Markup VectorScene.Points VectorScene.Text

/-! ## One element among others -/

/-- A place of an element in a tree, and what is read of the elements before it and after
it. -/
structure Place (settings : Settings) (kind : Kind) (node : Node String) where
  groupId : Option String
  tree : Node String
  before : List (Kind × Node String)
  after : List (Kind × Node String)
  elements : elements? groupId tree = some (before ++ (kind, node) :: after)
  first : List ReadShape
  rest : List ReadShape
  warningsBefore : List Warning
  warningsAfter : List Warning
  readBefore : shapes settings before = ⟨warningsBefore, .ok first⟩
  readAfter : shapes settings after = ⟨warningsAfter, .ok rest⟩

namespace Place

variable {settings : Settings} {kind : Kind} {node : Node String}

/-- The element at a place is read as a shape: the shape stands among those of the other
elements, and nothing is skipped but what is skipped of these. -/
def ReadsAs (place : Place settings kind node) (pixels : ReadShape) : Prop :=
  ofTree settings place.groupId place.tree =
    ⟨place.warningsBefore ++ place.warningsAfter, .ok (place.first ++ pixels :: place.rest)⟩

/-- What an element is read as does not depend on its place. -/
theorem readsAs_iff (inPixels : settings.normalize.isOn = false)
    (place : Place settings kind node) {pixels : ReadShape} :
    place.ReadsAs pixels ↔ shape kind node = .ok pixels := by
  rw [ReadsAs]
  cases read : shape kind node with
  | ok found =>
      rw [ofTree_of_ok inPixels place.elements read, place.readBefore, place.readAfter]
      simp only [Run.mk_ok_bind, Run.pure_eq, List.append_nil, Run.mk.injEq, true_and,
        Except.ok.injEq, List.append_cancel_left_eq, List.cons.injEq, and_true]
  | error cause =>
      rw [ofTree_of_error place.elements read, place.readBefore, place.readAfter]
      split
      next => simp [Run.fail]
      next => simp [Run.mk.injEq]

end Place

/-! ## One attribute -/

section

variable {node : Node String} {name text : String}

theorem number_eq_ok (listed : node.get? name = some text) {value : Number} :
    number node name = .ok value ↔
      Number.ofText? (trim text.toList) = some value ∧ value.isFinite = true := by
  rw [number, listed]
  dsimp only
  cases Number.ofText? (trim text.toList) with
  | none => simp
  | some found =>
      dsimp only
      split
      next finite =>
        rw [Except.ok.injEq, Option.some.injEq]
        exact ⟨fun same => ⟨same, same ▸ finite⟩, And.left⟩
      next infinite =>
        refine iff_of_false nofun ?_
        rintro ⟨⟨⟩, finite⟩
        exact infinite finite

theorem points_eq_ok (listed : node.get? name = some text) {vertices : List (Number × Number)} :
    points node name = .ok vertices ↔
      (cut text.toList).Lists ∧ Values (cut text.toList).tokens vertices := by
  by_cases lists : (cut text.toList).Lists
  · rw [points_of_lists listed (scans_iff.2 rfl) lists, and_iff_right lists]
  · rw [points_of_not_lists listed (scans_iff.2 rfl) lists]
    simp [lists]

theorem shape_circle {centerY radius : Number} {color : Int}
    (readY : number node "cy" = .ok centerY) (readRadius : number node "r" = .ok radius)
    (colored : Stroke.read (node.get? "style") = .ok color) :
    shape .circle node = (number node "cx").map (.circle · centerY radius color) := by
  rw [shape, Kind.template, Shape.mapM]
  cases number node "cx" with
  | error cause => rfl
  | ok centerX =>
      change (do
        let y ← number node "cy"
        let r ← number node "r"
        return Shape.circle centerX y r (← Stroke.read (node.get? "style"))) = _
      rw [readY, readRadius, colored]
      rfl

end

theorem value_eq_ok {token : List Char} {number : Number} :
    value token = .ok number ↔ Number.ofText? token = some number := by
  rw [value]
  cases Number.ofText? token with
  | none => simp
  | some found => rw [Except.ok.injEq, Option.some.injEq]

section

variable {node : Node String} {text : String} {color : Int} {number : Number}

theorem number_zero {name : String} (listed : node.get? name = some "0") :
    Reading.number node name = .ok (.integer 0) :=
  (number_eq_ok listed).2 ⟨by decide, by decide +kernel⟩

/-- A circle at `cx`, `0` is read with the number that its attribute is. -/
theorem shape_circle_eq_ok (solid : Solid text.toList)
    (colored : Stroke.read (node.get? "style") = .ok color) (centerX : node.get? "cx" = some text)
    (centerY : node.get? "cy" = some "0") (radius : node.get? "r" = some "0") :
    shape .circle node = .ok (.circle number (.integer 0) (.integer 0) color) ↔
      Number.ofText? text.toList = some number ∧ number.isFinite = true := by
  have trimmed : trim text.toList = text.toList :=
    trimBy_eq_self fun c member => (solid c member).1
  rw [shape_circle (number_zero centerY) (number_zero radius) colored, map_eq_ok,
    ← trimmed, ← number_eq_ok centerX]
  simp

/-- A polygon that lists one vertex on the axis is read with the number of its only
coordinate. -/
theorem shape_polygon_eq_ok (solid : Solid text.toList)
    (colored : Stroke.read (node.get? "style") = .ok color)
    (vertices : node.get? "points" = some (text ++ ",0")) :
    shape .polygon node = .ok (.polygon [(number, .integer 0)] color) ↔
      CoordinateForm text.toList ∧ Number.ofText? text.toList = some number := by
  have split : splitCoordinate? ['0'] = some (['0'], []) := by decide
  have zero : CoordinateForm ['0'] := isCoordinate_iff.1 split
  have readZero : value ['0'] = .ok (.integer 0) := by decide
  have solidZero : Solid ['0'] := List.forall_mem_singleton.2 (by decide)
  have listed : (text ++ ",0").toList = text.toList ++ ',' :: ['0'] := by simp
  have pair : points node "points" = .ok [(number, .integer 0)] ↔
      CoordinateForm text.toList ∧ Number.ofText? text.toList = some number := by
    rw [points_eq_ok vertices, listed, lists_pair_iff solid solidZero,
      and_iff_left (And.intro zero readZero), value_eq_ok]
  rw [shape_polygon colored, map_eq_ok, ← pair]
  simp

end

/-- A polygon is read with a finite number as the first coordinate of its only vertex exactly
when a circle is read with the number as the first coordinate of its center, and the text of
the number is a plain literal. -/
theorem readsAs_vertex_iff {settings : Settings} (inPixels : settings.normalize.isOn = false)
    {text style : String} (solid : Solid text.toList) {color : Int}
    (colored : Stroke.read (some style) = .ok color) {circle polygon : Node String}
    (centerX : circle.get? "cx" = some text) (centerY : circle.get? "cy" = some "0")
    (radius : circle.get? "r" = some "0") (styled : circle.get? "style" = some style)
    (vertices : polygon.get? "points" = some (text ++ ",0"))
    (styledPolygon : polygon.get? "style" = some style)
    (circlePlace : Place settings .circle circle) (polygonPlace : Place settings .polygon polygon)
    {number : Number} (finite : number.isFinite = true) :
    polygonPlace.ReadsAs (.polygon [(number, .integer 0)] color) ↔
      circlePlace.ReadsAs (.circle number (.integer 0) (.integer 0) color) ∧
        PlainLiteral text.toList := by
  have visible : ∀ c ∈ text.toList, isBlank c = false := fun c member => (solid c member).1
  rw [Place.readsAs_iff inPixels, Place.readsAs_iff inPixels,
    shape_circle_eq_ok solid (styled ▸ colored) centerX centerY radius,
    shape_polygon_eq_ok solid (styledPolygon ▸ colored) vertices]
  constructor
  · rintro ⟨form, read⟩
    exact ⟨⟨read, finite⟩, form.plain⟩
  · rintro ⟨⟨read, -⟩, plain⟩
    exact ⟨(coordinateForm_iff visible read finite).2 plain, read⟩

/-- A circle with a text as the first coordinate of its center, and a polygon with it as the
first coordinate of its only vertex. -/
def circleAt (text : String) : Node String :=
  .element "circle" [("cx", text), ("cy", "0"), ("r", "0"), ("style", "stroke:#993399")] none []
    none

def polygonAt (text : String) : Node String :=
  .element "polygon" [("points", text ++ ",0"), ("style", "stroke:#993399")] none [] none

/-- A drawing of one element and a line that cannot be read. -/
def besideLine (node : Node String) : Node String :=
  .element "svg" [] none [node, .element "line" [("x1", "1")] none [] none] none

theorem readsAs_vertex_iff_signed :
    let settings : Settings := ⟨⟨400, 400, by decide, by decide⟩, .flag false, .absent, .absent⟩
    let number : Number := .real (.ofRat (-15))
    PlainLiteral "-1.50e1".toList ∧
      ofTree settings none (besideLine (circleAt "-1.50e1")) =
        ⟨[.skipped .line (.missingAttribute "y1")],
          .ok [.circle number (.integer 0) (.integer 0) 0x993399FF]⟩ ∧
      ofTree settings none (besideLine (polygonAt "-1.50e1")) =
        ⟨[.skipped .line (.missingAttribute "y1")],
          .ok [.polygon [(number, .integer 0)] 0x993399FF]⟩ := by
  intro settings number
  let line : Kind × Node String := (.line, .element "line" [("x1", "1")] none [] none)
  have skipped : shapes settings [line] = ⟨[.skipped .line (.missingAttribute "y1")], .ok []⟩ := by
    decide +kernel
  let circlePlace : Place settings .circle (circleAt "-1.50e1") :=
    ⟨none, besideLine (circleAt "-1.50e1"), [line], [], by decide +kernel, [], [], _, _, skipped,
      rfl⟩
  let polygonPlace : Place settings .polygon (polygonAt "-1.50e1") :=
    ⟨none, besideLine (polygonAt "-1.50e1"), [line], [], by decide +kernel, [], [], _, _, skipped,
      rfl⟩
  have solid : Solid "-1.50e1".toList := by decide
  have colored : Stroke.read (some "stroke:#993399") = .ok 0x993399FF := by decide +kernel
  have finite : number.isFinite = true := by decide +kernel
  have vertex : ofTree settings none (besideLine (polygonAt "-1.50e1")) =
      ⟨[.skipped .line (.missingAttribute "y1")],
        .ok [.polygon [(number, .integer 0)] 0x993399FF]⟩ := by
    decide +kernel
  obtain ⟨center, plain⟩ := (readsAs_vertex_iff rfl solid colored rfl rfl rfl rfl rfl rfl circlePlace
    polygonPlace finite).1 vertex
  exact ⟨plain, center, vertex⟩

/-- An underscore, a digit beyond ASCII and a point at the end stand in literals that a circle
is read from and a polygon is not. -/
theorem not_readsAs_vertex_iff :
    let settings : Settings := ⟨⟨400, 400, by decide, by decide⟩, .flag false, .absent, .absent⟩
    ∀ literal ∈ [("1_0", Number.integer 10), ("\u0661", .integer 1), ("1.", .real (.ofRat 1))],
      Solid literal.1.toList ∧
      ofTree settings none (circleAt literal.1) =
        ⟨[], .ok [.circle literal.2 (.integer 0) (.integer 0) 0x993399FF]⟩ ∧
      ofTree settings none (polygonAt literal.1) =
        ⟨[.skipped .polygon (.invalidAttribute "points" (literal.1 ++ ",0"))], .ok []⟩ := by
  decide +kernel

end VectorScene.Reading
