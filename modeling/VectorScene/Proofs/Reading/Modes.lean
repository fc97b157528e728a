import VectorScene.Proofs.Reading.Normalize
import VectorScene.Proofs.Reading.Strict

/-!
# Readings in pixels and normalized readings

A reading that normalizes takes the same way as one in pixels, and normalizes each
shape at its end.  Only a coordinate that is too large makes it stop elsewhere.
-/

namespace VectorScene.Reading

open VectorScene.Markup

/-! ## Normalized shapes -/

/-- The normalized coordinate of a pixel along the width of a canvas. -/
def fromWidth (canvas : Canvas) (pixel : Number) : Except Fault Number :=
  (Canvas.normalized (.number pixel) (.number (.integer canvas.width))).map .real

/-- The normalized coordinate of a pixel along the height of a canvas. -/
def fromHeight (canvas : Canvas) (pixel : Number) : Except Fault Number :=
  (Canvas.normalized (.number pixel) (.number (.integer canvas.height))).map .real

/-- A vertex with normalized coordinates. -/
def vertexFromPixels (canvas : Canvas) (vertex : Number × Number) :
    Except Fault (Number × Number) := do
  return (← fromWidth canvas vertex.1, ← fromHeight canvas vertex.2)

/-- A shape with normalized coordinates and the same color. -/
def shapeFromPixels (canvas : Canvas) : ReadShape → Except Fault ReadShape
  | .line x1 y1 x2 y2 color => do
      return .line (← fromWidth canvas x1) (← fromHeight canvas y1) (← fromWidth canvas x2)
        (← fromHeight canvas y2) color
  | .circle cx cy r color => do
      return .circle (← fromWidth canvas cx) (← fromHeight canvas cy) (← fromWidth canvas r) color
  | .rect x y width height color => do
      return .rect (← fromWidth canvas x) (← fromHeight canvas y) (← fromWidth canvas width)
        (← fromHeight canvas height) color
  | .polygon vertices color => do
      return .polygon (← vertices.mapM (vertexFromPixels canvas)) color
  | .ellipse cx cy rx ry color => do
      return .ellipse (← fromWidth canvas cx) (← fromHeight canvas cy) (← fromWidth canvas rx)
        (← fromHeight canvas ry) color

/-- On a positive extent, the extent is no reason to fail. -/
theorem normalized_of_pos {extent : Int} (positive : 0 < extent) (pixel : Number) :
    Canvas.normalized (.number pixel) (.number (.integer extent)) =
      Canvas.normalizedOn pixel (.integer extent) := by
  have above : Canvas.atMostZero (.integer extent) = false := decide_eq_false (not_le.2 positive)
  simp [Canvas.normalized, Value.operand, Except.bind, above]

theorem normalizeScalar_x (canvas : Canvas) : normalizeScalar canvas .x = fromWidth canvas := by
  funext pixel
  rw [normalizeScalar, fromWidth, normalized_of_pos canvas.width_pos]
  rfl

theorem normalizeScalar_y (canvas : Canvas) : normalizeScalar canvas .y = fromHeight canvas := by
  funext pixel
  rw [normalizeScalar, fromHeight, normalized_of_pos canvas.height_pos]
  rfl

/-- Normalizing a shape takes each field along its own axis. -/
theorem normalize_eq (canvas : Canvas) (pixels : ReadShape) :
    normalize canvas pixels = shapeFromPixels canvas pixels := by
  have kept : (Except.ok : Int → Except Fault Int) = pure := rfl
  cases pixels with
  | polygon vertices color =>
      simp [normalize, Shape.mapM, shapeFromPixels, normalizeScalar_x, normalizeScalar_y, kept]
      rfl
  | _ =>
      simp [normalize, Shape.mapM, shapeFromPixels, normalizeScalar_x, normalizeScalar_y, kept]

/-- Only a coordinate that is too large is a reason to fail. -/
theorem fault_of_normalize {canvas : Canvas} {pixels : ReadShape} {fault : Fault}
    (failed : normalize canvas pixels = .error fault) : fault = .beyondBinary64 := by
  by_cases large : ∃ coordinate ∈ coordinates pixels,
      Canvas.TooLarge (canvas.extent coordinate.1) coordinate.2
  · obtain ⟨coordinate, member, tooLarge⟩ := large
    rw [normalize_of_tooLarge member tooLarge] at failed
    exact (Except.error.inj failed).symm
  · push Not at large
    obtain ⟨result, normalized⟩ := exists_normalize large
    rw [normalized] at failed
    cases failed

/-! ## Two runs -/

/-- The same settings with another choice between pixels and normalized coordinates. -/
def withNormalize (settings : Settings) (normalize : Value) : Settings :=
  { settings with normalize }

/-- A reading that differs from one in pixels by normalized coordinates alone. -/
structure Normalizes (canvas : Canvas) (inPixels normalized : Run (List ReadShape)) : Prop where
  warnings : normalized.warnings = inPixels.warnings
  faults : ∀ fault, inPixels.outcome = .error fault → normalized.outcome = .error fault
  shapes : ∀ pixels, inPixels.outcome = .ok pixels →
    ∃ results, normalized.outcome = .ok results ∧
      List.Forall₂ (fun before after => shapeFromPixels canvas before = .ok after) pixels results

namespace Normalizes

variable {canvas : Canvas} {inPixels normalized : Run (List ReadShape)}

theorem of_fault (warnings : List Warning) (fault : Fault) :
    Normalizes canvas ⟨warnings, .error fault⟩ ⟨warnings, .error fault⟩ where
  warnings := rfl
  faults _ same := same
  shapes _ ended := by cases ended

theorem nil (warnings : List Warning) :
    Normalizes canvas ⟨warnings, .ok []⟩ ⟨warnings, .ok []⟩ where
  warnings := rfl
  faults _ ended := by cases ended
  shapes pixels ended := by
    cases ended
    exact ⟨[], rfl, .nil⟩

/-- A warning in front of both readings makes no difference between them. -/
theorem warn (warning : Warning) (rest : Normalizes canvas inPixels normalized) :
    Normalizes canvas ⟨warning :: inPixels.warnings, inPixels.outcome⟩
      ⟨warning :: normalized.warnings, normalized.outcome⟩ where
  warnings := congrArg (warning :: ·) rest.warnings
  faults := rest.faults
  shapes := rest.shapes

/-- A shape in front of both readings is normalized in the second. -/
theorem cons {before after : ReadShape} (head : shapeFromPixels canvas before = .ok after)
    (rest : Normalizes canvas inPixels normalized) :
    Normalizes canvas ⟨inPixels.warnings, inPixels.outcome.map (before :: ·)⟩
      ⟨normalized.warnings, normalized.outcome.map (after :: ·)⟩ where
  warnings := rest.warnings
  faults fault ended := by
    cases outcome : inPixels.outcome with
    | error other =>
        rw [outcome] at ended
        rw [rest.faults other outcome]
        exact ended
    | ok pixels =>
        rw [outcome] at ended
        cases ended
  shapes pixels ended := by
    obtain ⟨others, outcome, rfl⟩ := map_eq_ok.1 ended
    obtain ⟨results, same, shapes⟩ := rest.shapes others outcome
    exact ⟨after :: results, map_eq_ok.2 ⟨results, same, rfl⟩, .cons head shapes⟩

end Normalizes

section

variable {settings : Settings} {on off : Value}

/-- A reading of elements that normalizes and does not come to a coordinate that is too
large differs from one in pixels by normalized coordinates alone. -/
theorem shapes_normalizes (normalizing : on.isOn = true) (inPixels : off.isOn = false)
    (elements : List (Kind × Node String))
    (fits : (shapes (withNormalize settings on) elements).outcome ≠ .error .beyondBinary64) :
    Normalizes settings.canvas (shapes (withNormalize settings off) elements)
      (shapes (withNormalize settings on) elements) := by
  induction elements with
  | nil => exact .nil []
  | cons element rest ih =>
      obtain ⟨kind, node⟩ := element
      cases read : shape kind node with
      | error cause =>
          cases strict : settings.strict.isOn with
          | true =>
              have strictly (value : Value) :
                  (withNormalize settings value).strict.isOn = true := strict
              rw [shapes_strict (strictly on) read, shapes_strict (strictly off) read]
              exact .of_fault [] _
          | false =>
              have leniently (value : Value) :
                  (withNormalize settings value).strict.isOn = false := strict
              rw [shapes_lenient (leniently on) read] at fits
              rw [shapes_lenient (leniently on) read, shapes_lenient (leniently off) read]
              exact (ih fits).warn _
      | ok pixels =>
          have kept : finish (withNormalize settings off) pixels = .ok pixels := by
            simp [finish, withNormalize, inPixels]
          have asked : finish (withNormalize settings on) pixels =
              normalize settings.canvas pixels := by
            simp [finish, withNormalize, normalizing]
          cases finished : normalize settings.canvas pixels with
          | error fault =>
              rw [fault_of_normalize finished] at finished
              rw [shapes_unfinished read (asked.trans finished)] at fits
              exact absurd rfl fits
          | ok result =>
              rw [shapes_finished read (asked.trans finished)] at fits
              rw [shapes_finished read (asked.trans finished), shapes_finished read kept]
              apply Normalizes.cons
              · rw [← normalize_eq]
                exact finished
              · apply ih
                intro failed
                apply fits
                rw [failed]
                rfl

/-- A reading of a document that normalizes and does not end with a coordinate that is too
large gives the warnings and the fault of one in pixels.  If there is no fault, it gives
the shapes of that one in order, each coordinate normalized along its own axis. -/
theorem ofTree_normalizes (normalizing : on.isOn = true) (inPixels : off.isOn = false)
    (groupId : Option String) (tree : Node String)
    (fits : (ofTree (withNormalize settings on) groupId tree).outcome ≠ .error .beyondBinary64) :
    Normalizes settings.canvas (ofTree (withNormalize settings off) groupId tree)
      (ofTree (withNormalize settings on) groupId tree) := by
  cases found : elements? groupId tree with
  | some elements =>
      rw [ofTree_eq_shapes found] at fits
      rw [ofTree_eq_shapes found, ofTree_eq_shapes found]
      exact shapes_normalizes normalizing inPixels elements fits
  | none =>
      cases groupId with
      | none => cases found
      | some id =>
          cases strict : settings.strict.isOn with
          | true =>
              have ended (value : Value) :
                  ofTree (withNormalize settings value) (some id) tree =
                    ⟨[], .error (.defect (.missingGroup id))⟩ :=
                ofTree_missing_strict found strict
              rw [ended on, ended off]
              exact .of_fault [] _
          | false =>
              have ended (value : Value) :
                  ofTree (withNormalize settings value) (some id) tree =
                    ⟨[.missingGroup id], .ok []⟩ :=
                ofTree_missing_lenient found strict
              rw [ended on, ended off]
              exact .nil _

end

/-- A rectangle without a height, a circle, and a polygon in a group. -/
def oblongTree : Node String :=
  .element "svg" [] none
    [.element "rect" [("x", "1"), ("y", "2"), ("width", "3"), ("style", "stroke:#993399")] none []
       none,
     .element "circle" [("cx", "300"), ("cy", "150"), ("r", "200"), ("style", "stroke:#993399")]
       none [] none,
     .element "g" [] none
      [.element "polygon" [("points", "100,100 400,0.0"), ("style", "stroke:#000000")] none [] none]
      none]
    none

theorem ofTree_normalizes_oblong :
    let settings : Settings := ⟨⟨400, 200, by decide, by decide⟩, .flag false, .absent, .absent⟩
    let real (value : Rat) : Number := .real (.ofRat value)
    ∃ pixels results,
      ofTree (withNormalize settings .absent) none oblongTree =
        ⟨[.skipped .rect (.missingAttribute "height")], .ok pixels⟩ ∧
      ofTree (withNormalize settings (.flag true)) none oblongTree =
        ⟨[.skipped .rect (.missingAttribute "height")], .ok results⟩ ∧
      List.Forall₂ (fun before after => shapeFromPixels settings.canvas before = .ok after)
        pixels results ∧
      results =
        [.circle (real (1 / 2)) (real (1 / 2)) (real 0) 0x993399FF,
         .polygon [(real (-1 / 2), real 0), (real 1, real (-1))] 0xFF] := by
  intro settings real
  have inPixels : ofTree (withNormalize settings .absent) none oblongTree =
      ⟨[.skipped .rect (.missingAttribute "height")], .ok
        [.circle (.integer 300) (.integer 150) (.integer 200) 0x993399FF,
         .polygon [(.integer 100, .integer 100), (.integer 400, real 0)] 0xFF]⟩ := by
    decide +kernel
  have fits : (ofTree (withNormalize settings (.flag true)) none oblongTree).outcome ≠
      .error .beyondBinary64 := by
    decide +kernel
  have normalizes : Normalizes settings.canvas
      (ofTree (withNormalize settings .absent) none oblongTree)
      (ofTree (withNormalize settings (.flag true)) none oblongTree) :=
    ofTree_normalizes rfl rfl none oblongTree fits
  obtain ⟨results, ended, shapes⟩ := normalizes.shapes _ (congrArg Run.outcome inPixels)
  have warned := normalizes.warnings
  rw [inPixels] at warned
  have known : (ofTree (withNormalize settings (.flag true)) none oblongTree).outcome = .ok
      [.circle (real (1 / 2)) (real (1 / 2)) (real 0) 0x993399FF,
       .polygon [(real (-1 / 2), real 0), (real 1, real (-1))] 0xFF] := by
    decide +kernel
  refine ⟨_, results, inPixels, ?_, shapes, ?_⟩
  · exact congrArg₂ Run.mk warned ended
  · rw [known] at ended
    exact (Except.ok.inj ended).symm

end VectorScene.Reading
