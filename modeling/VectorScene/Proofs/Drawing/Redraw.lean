import VectorScene.Proofs.Drawing.Order
import VectorScene.Proofs.Drawing.Return
import VectorScene.Proofs.Drawing.Strict
import VectorScene.Proofs.Reading.Pixels
import VectorScene.Proofs.Stroke.RoundTrip

/-!
# Readings drawn again

Shapes that are read with normalized coordinates and drawn again keep their pixels, as long as
these are on the canvas.  The drawing is read as the shapes that were read first.
-/

namespace VectorScene.Drawing

open VectorScene.Markup VectorScene.Reading

/-! ## Lists of shapes -/

/-- The scene of shapes that were read. -/
def sceneOf (results : List ReadShape) : List Command :=
  results.map fun result => .shape (toScene result)

section

variable {settings : Settings} {canvas : Canvas} {pixels results : List ReadShape}
  {document : Document}

theorem flatten_sceneOf (results : List ReadShape) :
    flatten (sceneOf results) = results.map fun result => .shape (toScene result) := by
  rw [← flatten_map_toCommand (results.map fun result => Leaf.shape (toScene result)),
    List.map_map]
  rfl

/-- Shapes that were read are drawn without a warning, each as an element. -/
theorem leafNodes_sceneOf {warnings : List Warning} {nodes : List (Node String)} :
    leafNodes canvas (flatten (sceneOf results)) = ⟨warnings, .ok nodes⟩ ↔ warnings = [] ∧
      List.Forall₂ (fun result node => shapeNode canvas (toScene result) = .ok node)
        results nodes := by
  rw [flatten_sceneOf]
  induction results generalizing warnings nodes with
  | nil => exact Run.mk_nil_eq_ok
  | cons result rest ih =>
      rw [List.map_cons, leafNodes, Run.bind_eq_ok, List.forall₂_cons_left_iff]
      simp only [Run.ofExcept_eq_ok, Run.bind_eq_ok, ih]
      constructor
      · rintro ⟨_, node, _, ⟨drawn, rfl⟩, ⟨_, others, _, ⟨rfl, later⟩, same, rfl⟩, rfl⟩
        cases same
        exact ⟨rfl, node, others, drawn, later, rfl⟩
      · rintro ⟨rfl, node, others, drawn, later, rfl⟩
        exact ⟨[], node, [], ⟨drawn, rfl⟩, ⟨[], others, [], ⟨rfl, later⟩, rfl, rfl⟩, rfl⟩

/-- Shapes that were read, normalized and drawn again are kept one by one. -/
theorem forall₂_keeps (narrow : Narrow canvas) {nodes : List (Node String)}
    (read : ∀ shape ∈ pixels, Stroke.kept shape.color = shape.color)
    (normalized : List.Forall₂ (fun before after => Reading.normalize canvas before = .ok after)
      pixels results)
    (drawn : List.Forall₂ (fun result node => shapeNode canvas (toScene result) = .ok node)
      results nodes) : List.Forall₂ (Keeps canvas) pixels nodes := by
  refine forall₂_trans normalized drawn ?_
  intro shape member result node normalizedHere drawnHere
  exact keeps_of_drawn narrow (read shape member) normalizedHere drawnHere

/-- Shapes that fit can be normalized and drawn again. -/
theorem exists_drawn (narrow : Narrow canvas) (fits : ∀ shape ∈ pixels, Fits canvas shape) :
    ∃ results nodes,
      List.Forall₂ (fun before after => Reading.normalize canvas before = .ok after)
        pixels results ∧
      List.Forall₂ (fun result node => shapeNode canvas (toScene result) = .ok node)
        results nodes := by
  induction pixels with
  | nil => exact ⟨[], [], .nil, .nil⟩
  | cons shape rest ih =>
      rw [List.forall_mem_cons] at fits
      obtain ⟨result, node, normalized, drawn⟩ := fits.1.exists_shapeNode narrow
      obtain ⟨results, nodes, normalizedLater, drawnLater⟩ := ih fits.2
      exact ⟨result :: results, node :: nodes, .cons normalized normalizedLater,
        .cons drawn drawnLater⟩

/-- The images that elements show are the shapes that they keep. -/
theorem map_asRead_eq {nodes : List (Node String)} {images : List PixelImage}
    (fits : ∀ shape ∈ pixels, Fits canvas shape) (keeps : List.Forall₂ (Keeps canvas) pixels nodes)
    (shows : List.Forall₂ Shows nodes images) :
    images.map asRead = pixels ∧
      ∀ shown ∈ images, ∀ position ∈ shown.scalars, |position| < 2 ^ 1024 - 2 ^ 970 := by
  have both : List.Forall₂ (fun shape shown => shape = asRead shown ∧
      ∀ position ∈ shown.scalars, |position| < 2 ^ 1024 - 2 ^ 970) pixels images := by
    refine forall₂_trans keeps shows ?_
    intro shape member node shown keepsHere showsHere
    exact keepsHere.eq_asRead (fits shape member) showsHere
  refine ⟨?_, forall_right both fun _ _ => And.right⟩
  rw [eq_comm, ← List.forall₂_eq_eq_eq, List.forall₂_map_right_iff]
  exact both.imp fun _ _ => And.left

theorem kind_asRead (shown : PixelImage) : (asRead shown).kind = shown.kind := by
  cases shown <;> rfl

/-- Reading images kind by kind is choosing their shapes by kind. -/
theorem map_asRead_byKind (images : List PixelImage) :
    (byKind images).map asRead = Kind.all.flatMap fun kind =>
      (images.map asRead).filter fun result => result.kind = kind := by
  rw [byKind, List.map_flatMap, Kind.all]
  congr 1
  funext kind
  rw [List.filter_map]
  congr 1
  congr 1
  funext shown
  rw [Function.comp_apply, kind_asRead]

theorem ofScene_sceneOf {warnings : List Warning} :
    ofScene settings (sceneOf results) = ⟨warnings, .ok document⟩ ↔ warnings = [] ∧
      List.Forall₂ (fun result node => shapeNode settings.canvas (toScene result) = .ok node)
        results document.shapes ∧
      Frames settings document := by
  rw [ofScene_eq_ok, leafNodes_sceneOf, and_assoc]

theorem exists_frames (narrow : Narrow settings.canvas) (nodes : List (Node String)) :
    ∃ document, Frames settings document ∧ document.shapes = nodes := by
  have small (axis : Axis) : |settings.canvas.extent axis| ≤ 2 ^ 50 := by
    rw [abs_of_pos (extent_pos settings.canvas axis)]
    exact narrow axis
  obtain ⟨width, wide⟩ := exists_written (small .x)
  obtain ⟨height, high⟩ := exists_written (small .y)
  exact ⟨⟨width, height, settings.groupId, nodes⟩, ⟨wide, high, rfl⟩, rfl⟩

/-- A drawing whose elements keep shapes that fit shows these, kind by kind. -/
theorem exists_shown {Thing : Type} [Shown Thing] {scene : List (Command Thing)}
    (drawn : (leafNodes canvas (flatten scene)).outcome = .ok document.shapes)
    (fits : ∀ shape ∈ pixels, Fits canvas shape)
    (keeps : List.Forall₂ (Keeps canvas) pixels document.shapes)
    (ordered : (Kind.all.flatMap fun kind => pixels.filter fun result => result.kind = kind) =
      pixels) :
    ∃ images, List.Forall₂ Shows document.shapes images ∧ (byKind images).map asRead = pixels ∧
      ∀ shown ∈ images, ∀ position ∈ shown.scalars, |position| < 2 ^ 1024 - 2 ^ 970 := by
  obtain ⟨images, -, shows⟩ := exists_images drawn
  obtain ⟨same, small⟩ := map_asRead_eq fits keeps shows
  refine ⟨images, shows, ?_, small⟩
  rw [map_asRead_byKind, same, ordered]

section

variable {images : List PixelImage} {reader : Settings}
  (inPixels : reader.normalize.isOn = false)
  (shows : List.Forall₂ Shows document.shapes images)
  (small : ∀ shown ∈ images, ∀ position ∈ shown.scalars, |position| < 2 ^ 1024 - 2 ^ 970)

include inPixels shows small

/-- The tree of a drawing is read as what it shows. -/
theorem ofTree_of_shows :
    ofTree reader none document.readable = ⟨[], .ok ((byKind images).map asRead)⟩ := by
  rw [ofTree_readable_eq_shapes shows]
  exact shapes_of_reads inPixels (reads_of_shows (shows_byKind shows)
    fun shown member => small shown (mem_of_mem_byKind member))

/-- The text of a drawing is read as what it shows. -/
theorem exists_ofText (frames : Frames settings document) {id : String} {indent : Option Indent}
    (group : settings.groupId = .text id) (legal : LegalText id.toList)
    (tab : ∀ tab, indent = some (.text tab) → LegalText tab.toList) :
    ∃ text, document.render indent = .ok text ∧ ∀ groupId ∈ [none, some id],
      ofText reader groupId text = ⟨[], .ok ((byKind images).map asRead)⟩ := by
  obtain ⟨text, tree, rendered, parsed, bare⟩ := exists_render shows
    (legalText_written frames.width) (legalText_written frames.height) legal (legalText_tab tab)
  refine ⟨text, ?_, ?_⟩
  · rw [Document.render, ← frames.groupId, group]
    exact rendered
  · intro groupId member
    rw [ofText, parsed, Run.ofExcept_ok_bind]
    exact ofTree_of_bare inPixels shows small bare groupId member

end

end

/-! ## Readings drawn again -/

section

variable {settings : Settings} {off : Value} {groupId : Option String} {tree : Node String}
  {warnings : List Warning} {pixels : List ReadShape}
  (normalizing : settings.normalize.isOn = true) (inPixels : off.isOn = false)
  (narrow : Narrow settings.canvas)
  (read : ofTree (withNormalize settings off) groupId tree = ⟨warnings, .ok pixels⟩)

include inPixels read

/-- All of a color is kept that is read with a shape. -/
theorem kept_color : ∀ shape ∈ pixels, Stroke.kept shape.color = shape.color := by
  intro shape member
  obtain ⟨kind, node, shaped⟩ := exists_shape inPixels (congrArg Run.outcome read) shape member
  exact Stroke.kept_of_read (Shape.mapM_eq_ok.1 shaped).color_related

include normalizing narrow

/-- Shapes that are read with normalized coordinates and drawn again are kept. -/
theorem keeps_of_ofScene {results : List ReadShape} {document : Document}
    (normalized : (ofTree settings groupId tree).outcome = .ok results)
    (drawn : (ofScene settings (sceneOf results)).outcome = .ok document) :
    List.Forall₂ (Keeps settings.canvas) pixels document.shapes := by
  obtain ⟨-, all⟩ :=
    (ofTree_normalized_iff normalizing inPixels read).1 (congrArg (Run.mk _) normalized)
  obtain ⟨-, nodes, -⟩ := ofScene_sceneOf.1 (congrArg (Run.mk _) drawn)
  exact forall₂_keeps narrow (kept_color inPixels read) all nodes

/-- Shapes that fit are drawn again, and come back when the drawing is read. -/
theorem exists_ofScene (fits : ∀ shape ∈ pixels, Fits settings.canvas shape) :
    ∃ results document, ofTree settings groupId tree = ⟨warnings, .ok results⟩ ∧
      ofScene settings (sceneOf results) = ⟨[], .ok document⟩ ∧
      ofTree (withNormalize settings off) none document.readable = ⟨[], .ok pixels⟩ ∧
      ofTree settings none document.readable = ⟨[], .ok results⟩ ∧
      ∀ id indent, settings.groupId = .text id → LegalText id.toList →
        (∀ tab, indent = some (.text tab) → LegalText tab.toList) →
        ∃ text, render settings (sceneOf results) indent = ⟨[], .ok text⟩ ∧
          ∀ requested ∈ [none, some id],
            ofText (withNormalize settings off) requested text = ⟨[], .ok pixels⟩ := by
  have readsPixels : (withNormalize settings off).normalize.isOn = false := inPixels
  obtain ⟨results, nodes, normalized, shapesDrawn⟩ := exists_drawn narrow fits
  obtain ⟨document, frames, rfl⟩ := exists_frames narrow nodes
  have drawn : ofScene settings (sceneOf results) = ⟨[], .ok document⟩ :=
    ofScene_sceneOf.2 ⟨rfl, shapesDrawn, frames⟩
  obtain ⟨images, shows, same, small⟩ := exists_shown
    (congrArg Run.outcome (leafNodes_sceneOf.2 ⟨rfl, shapesDrawn⟩)) fits
    (forall₂_keeps narrow (kept_color inPixels read) normalized shapesDrawn)
    (eq_flatMap_filter_kind readsPixels (congrArg Run.outcome read))
  -- The drawing is read kind by kind, and so were the shapes: the order is the same.
  have again : ofTree (withNormalize settings off) none document.readable = ⟨[], .ok pixels⟩ := by
    rw [← same]
    exact ofTree_of_shows readsPixels shows small
  refine ⟨results, document, ?_, drawn, again, ?_, ?_⟩
  · exact (ofTree_normalized_iff normalizing inPixels read).2 ⟨rfl, normalized⟩
  · exact (ofTree_normalized_iff normalizing inPixels again).2 ⟨rfl, normalized⟩
  · intro id indent group legal tab
    obtain ⟨text, rendered, readText⟩ :=
      exists_ofText readsPixels shows small frames group legal tab
    refine ⟨text, ?_, ?_⟩
    · rw [render, drawn, Run.mk_ok_bind, rendered]
      rfl
    · rw [← same]
      exact readText

end

/-- On every extent of at most `2 ^ 50` pixels, a whole pixel on the canvas is normalized to a
coordinate that is mapped back to the pixel.  So a drawing of shapes that were read with normalized
coordinates keeps every scalar that is such a pixel.  If all coordinates are, the shapes are drawn,
and the drawing is read as these shapes, as a tree and as a text. -/
theorem ofScene_normalized :
    (∀ extent position : Int, 1 ≤ extent → extent ≤ 2 ^ 50 → 0 ≤ position → position ≤ extent →
      ∃ coordinate,
        Canvas.normalized (.number (.integer position)) (.number (.integer extent)) =
          .ok coordinate ∧
        Canvas.valuePixel (.number (.real coordinate)) (.number (.integer extent)) =
          .ok position) ∧
    ∀ settings off, settings.normalize.isOn = true → off.isOn = false → Narrow settings.canvas →
      ∀ groupId tree warnings pixels,
        ofTree (withNormalize settings off) groupId tree = ⟨warnings, .ok pixels⟩ →
        (∀ results document, (ofTree settings groupId tree).outcome = .ok results →
          (ofScene settings (sceneOf results)).outcome = .ok document →
          List.Forall₂ (Keeps settings.canvas) pixels document.shapes) ∧
        ((∀ shape ∈ pixels, Fits settings.canvas shape) →
          ∃ results document, ofTree settings groupId tree = ⟨warnings, .ok results⟩ ∧
            ofScene settings (sceneOf results) = ⟨[], .ok document⟩ ∧
            ofTree (withNormalize settings off) none document.readable = ⟨[], .ok pixels⟩ ∧
            ofTree settings none document.readable = ⟨[], .ok results⟩ ∧
            ∀ id indent, settings.groupId = .text id → LegalText id.toList →
              (∀ tab, indent = some (.text tab) → LegalText tab.toList) →
              ∃ text, render settings (sceneOf results) indent = ⟨[], .ok text⟩ ∧
                ∀ requested ∈ [none, some id],
                  ofText (withNormalize settings off) requested text = ⟨[], .ok pixels⟩) := by
  refine ⟨?_, ?_⟩
  · intro extent position positive wide low high
    rw [normalized_of_pos positive]
    exact Canvas.exists_normalizedOn_pixel positive wide low high
  · intro settings off normalizing inPixels narrow groupId tree warnings pixels read
    exact ⟨fun _ _ => keeps_of_ofScene normalizing inPixels narrow read,
      exists_ofScene normalizing inPixels narrow read⟩

/-- A circle, a line from corner to corner, and a rectangle without a height. -/
def cornerTree : Node String :=
  .element "svg" [] none
    [.element "circle" [("cx", "137"), ("cy", " +299"), ("r", "0"), ("style", "stroke:#993399")]
       none [] none,
     .element "rect" [("x", "1"), ("y", "2"), ("width", "3"), ("style", "stroke:#000000")] none []
       none,
     .element "line"
       [("x1", "0"), ("y1", "300"), ("x2", "400"), ("y2", "0"), ("style", "stroke:#ABCDEF")] none []
       none]
    none

theorem ofScene_normalized_corner :
    let settings : Settings :=
      ⟨⟨400, 300, by decide, by decide⟩, .flag false, .flag true, .text "main_group"⟩
    let pixels : List ReadShape :=
      [.line (.integer 0) (.integer 300) (.integer 400) (.integer 0) 0xABCDEFFF,
       .circle (.integer 137) (.integer 299) (.integer 0) 0x993399FF]
    (∃ coordinate,
      Canvas.normalized (.number (.integer (3 ^ 31))) (.number (.integer (2 ^ 50))) =
        .ok coordinate ∧
      Canvas.valuePixel (.number (.real coordinate)) (.number (.integer (2 ^ 50))) =
        .ok (3 ^ 31)) ∧
    ∃ results document,
      ofTree settings none cornerTree =
        ⟨[.skipped .rect (.missingAttribute "height")], .ok results⟩ ∧
      ofScene settings (sceneOf results) = ⟨[], .ok document⟩ ∧
      List.Forall₂ (Keeps settings.canvas) pixels document.shapes ∧
      ∃ text, render settings (sceneOf results) none = ⟨[], .ok text⟩ ∧
        ofText (withNormalize settings (.flag false)) none text = ⟨[], .ok pixels⟩ := by
  intro settings pixels
  have read : ofTree (withNormalize settings (.flag false)) none cornerTree =
      ⟨[.skipped .rect (.missingAttribute "height")], .ok pixels⟩ := by
    decide +kernel
  have narrow : Narrow settings.canvas := by
    intro axis
    cases axis <;> decide
  obtain ⟨fixed, drawings⟩ := ofScene_normalized
  obtain ⟨keeps, comesBack⟩ := drawings settings (.flag false) rfl rfl narrow none _ _ _ read
  obtain ⟨results, document, normalized, drawn, -, -, texts⟩ := comesBack (by decide +kernel)
  obtain ⟨text, rendered, readText⟩ := texts "main_group" none rfl (by decide) nofun
  refine ⟨fixed _ _ (by decide) (by decide) (by decide) (by decide), results, document, normalized,
    drawn, ?_, text, rendered, readText none (by decide)⟩
  exact keeps results document (congrArg Run.outcome normalized) (congrArg Run.outcome drawn)

end VectorScene.Drawing
