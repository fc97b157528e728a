import VectorScene.Proofs.Drawing.Order
import VectorScene.Proofs.Drawing.RoundTrip
import VectorScene.Proofs.Reading.Strict

/-!
# Drawings read strictly

Pixels are drawn with all their digits, and a scalar is read only if it is a finite
binary64 number.  A drawing is read strictly exactly when all its scalars are.
-/

namespace VectorScene.Drawing

open VectorScene.Markup VectorScene.Reading

/-! ## Elements that are refused -/

/-- A strict reading of elements that show images, one with a scalar that is too large, ends
with the defect of an attribute that holds such a scalar. -/
theorem shapes_of_large (settings : Settings) (strict : settings.strict.isOn = true)
    (inPixels : settings.normalize.isOn = false) {elements : List (Kind × Node String)}
    {images : List PixelImage} (shows : List.Forall₂ ShowsElement elements images)
    (large : ∃ shown ∈ images, ∃ position ∈ shown.scalars, 2 ^ 1024 - 2 ^ 970 ≤ |position|) :
    ∃ name text, shapes settings elements = ⟨[], .error (.defect (.invalidAttribute name text))⟩ ∧
      ∃ shown ∈ images, ∃ position ∈ shown.scalars, 2 ^ 1024 - 2 ^ 970 ≤ |position| ∧
        (Number.integer position).written = .ok text := by
  induction shows with
  | nil =>
      obtain ⟨shown, member, -⟩ := large
      cases member
  | @cons element first _ others head _ ih =>
      obtain ⟨kind, node⟩ := element
      obtain ⟨rfl, shows⟩ := head
      by_cases here : ∃ position ∈ first.scalars, 2 ^ 1024 - 2 ^ 970 ≤ |position|
      · obtain ⟨name, text, refused, beyond⟩ := shows.refuses here
        exact ⟨name, text, shapes_strict strict refused, first, List.mem_cons_self, beyond⟩
      · have later : ∃ shown ∈ others, ∃ position ∈ shown.scalars,
            2 ^ 1024 - 2 ^ 970 ≤ |position| := by
          obtain ⟨shown, member, beyond⟩ := large
          rcases List.mem_cons.1 member with rfl | inside
          · exact absurd beyond here
          · exact ⟨shown, inside, beyond⟩
        obtain ⟨name, text, ended, shown, member, beyond⟩ := ih later
        have read : Reading.shape first.kind node = .ok (asRead first) :=
          shows.reads fun position inside => not_le.1 fun beyond => here ⟨position, inside, beyond⟩
        have finished : finish settings (asRead first) = .ok (asRead first) := by
          rw [finish, inPixels]
          rfl
        refine ⟨name, text, ?_, shown, List.mem_cons_of_mem _ member, beyond⟩
        rw [shapes_finished read finished, ended]
        rfl

/-! ## Trees of drawings -/

/-- The elements that are read from the tree of a drawing are those of its shapes,
whatever the identifier of its group. -/
theorem candidates_readable {document : Document} {images : List PixelImage}
    (shows : List.Forall₂ Shows document.shapes images) :
    candidates document.readable.strip = elementsByKind document.shapes := by
  have kept : Node.stripAll document.shapes = document.shapes := by
    refine stripAll_eq_self document.shapes fun inner member => ?_
    rw [preorderAll_of_shows shows] at member
    exact forall_left shows (fun _ _ head => head.plainNode) inner member
  have root : stripName "svg" = "svg" := stripName_of_isPlainName (by decide)
  have group : stripName "g" = "g" := stripName_of_isPlainName (by decide)
  have stripped (attributes groupAttributes : Attributes String) :
      (Node.element "svg" attributes none
        [.element "g" groupAttributes none document.shapes none] none).strip =
      .element "svg" (Node.stripAttributes attributes) none
        [.element "g" (Node.stripAttributes groupAttributes) none document.shapes none] none := by
    rw [Node.strip, Node.stripAll, Node.stripAll, Node.strip, root, group, kept]
  change candidates (Node.strip (.element "svg" _ none [.element "g" _ none _ none] none)) = _
  rw [stripped, candidates_root, candidates_group _ shows]

theorem ofTree_readable_eq_shapes {document : Document} {images : List PixelImage}
    {reader : Settings} (shows : List.Forall₂ Shows document.shapes images) :
    ofTree reader none document.readable = shapes reader (elementsByKind document.shapes) :=
  congrArg (shapes reader) (candidates_readable shows)

/-- The elements that are read from a drawing show the images of its shapes. -/
theorem exists_byKind {Thing : Type} [Shown Thing] {settings : Settings}
    {scene : List (Command Thing)} {document : Document}
    (drawn : (ofScene settings scene).outcome = .ok document) :
    ∃ images, (drawnShapes (flatten scene)).mapM (image settings.canvas) = .ok images ∧
      ∃ elements, List.Forall₂ ShowsElement elements (byKind images) ∧
        ∀ reader, ofTree reader none document.readable = shapes reader elements := by
  have leaves := (ofScene_eq_ok.1 (congrArg (Run.mk _) drawn)).1
  obtain ⟨images, imaged, shows⟩ := exists_images (congrArg Run.outcome leaves)
  exact ⟨images, imaged, elementsByKind document.shapes, shows_byKind shows,
    fun _ => ofTree_readable_eq_shapes shows⟩

/-- A drawing is read strictly as the images of its shapes if every scalar of these is
below the bound of finite numbers.  If one is not, the reading ends with the defect of
an attribute that holds such a scalar.  Vertices are read in any size. -/
theorem ofTree_readable {Thing : Type} [Shown Thing] {settings : Settings}
    {scene : List (Command Thing)} {document : Document} {strict : Value}
    (on : strict.isOn = true) (inPixels : settings.normalize.isOn = false)
    (drawn : (ofScene settings scene).outcome = .ok document) :
    ∃ images, (drawnShapes (flatten scene)).mapM (image settings.canvas) = .ok images ∧
      ((∀ shown ∈ images, ∀ position ∈ shown.scalars, |position| < 2 ^ 1024 - 2 ^ 970) →
        ofTree (withStrict settings strict) none document.readable =
          ⟨[], .ok ((byKind images).map asRead)⟩) ∧
      ((∃ shown ∈ images, ∃ position ∈ shown.scalars, 2 ^ 1024 - 2 ^ 970 ≤ |position|) →
        ∃ name text, ofTree (withStrict settings strict) none document.readable =
            ⟨[], .error (.defect (.invalidAttribute name text))⟩ ∧
          ∃ shown ∈ images, ∃ position ∈ shown.scalars, 2 ^ 1024 - 2 ^ 970 ≤ |position| ∧
            (Number.integer position).written = .ok text) := by
  obtain ⟨images, imaged, elements, shows, read⟩ := exists_byKind drawn
  refine ⟨images, imaged, ?_, ?_⟩
  · intro small
    have reads := reads_of_shows shows fun shown member => small shown (mem_of_mem_byKind member)
    have stillInPixels : (withStrict settings strict).normalize.isOn = false := inPixels
    rw [read]
    exact shapes_of_reads stillInPixels reads
  · rintro ⟨shown, member, beyond⟩
    rw [read]
    obtain ⟨name, text, ended, shown, member, beyond⟩ :=
      shapes_of_large (withStrict settings strict) on inPixels shows
        ⟨shown, mem_byKind member, beyond⟩
    exact ⟨name, text, ended, shown, mem_of_mem_byKind member, beyond⟩

/-- A line, and a polygon with a vertex whose pixel is beyond the bound. -/
def wideScene : List Command :=
  let whole (position : Int) : Value := .number (.integer position)
  [.shape (.polygon [.several [whole (10 ^ 400), whole 0], .several [whole 1, whole (-1)]]
    (whole 0x99339900)),
   .glow [.shape (.line (whole (-2)) (whole (-1)) (whole 1) (whole 0) (whole 255))]]

theorem ofTree_readable_wide :
    let settings : Settings :=
      ⟨⟨400, 400, by decide, by decide⟩, .flag true, .flag false, .text "main_group"⟩
    ∃ document, (ofScene settings wideScene).outcome = .ok document ∧
      ofTree (withStrict settings (.flag true)) none document.readable =
        ⟨[], .ok
          [.line (.integer (-200)) (.integer 0) (.integer 400) (.integer 200) 0xFF,
           .polygon [(.integer (200 * (10 ^ 400 + 1)), .integer 200), (.integer 400, .integer 0)]
             0x993399FF]⟩ := by
  intro settings
  obtain ⟨document, drawn⟩ : ∃ document, (ofScene settings wideScene).outcome = .ok document :=
    exists_of_isOk (by decide +kernel)
  have known : (drawnShapes (flatten wideScene)).mapM (image settings.canvas) =
      .ok [.polygon [(200 * (10 ^ 400 + 1), 200), (400, 0)] 0x993399FF,
        .line (-200) 0 400 200 0xFF] := by
    decide +kernel
  have on : (Value.flag true).isOn = true := rfl
  obtain ⟨images, imaged, read, -⟩ := ofTree_readable on rfl drawn
  rw [known] at imaged
  cases imaged
  exact ⟨document, drawn, read (by decide +kernel)⟩

/-- A circle whose center is finite as a coordinate and beyond the bound as a pixel. -/
def farScene : List Command :=
  let whole (position : Int) : Value := .number (.integer position)
  [.shape (.circle (whole (10 ^ 308)) (whole 0) (whole 0) (whole 255))]

/-- A drawing of finite coordinates that is not read with the settings of the drawing. -/
theorem not_ofTree_readable_far :
    let settings : Settings :=
      ⟨⟨400, 400, by decide, by decide⟩, .flag true, .flag false, .text "main_group"⟩
    (Number.integer (10 ^ 308)).isFinite = true ∧
      ∃ document, (ofScene settings farScene).outcome = .ok document ∧
        ∃ name text, ofTree settings none document.readable =
            ⟨[], .error (.defect (.invalidAttribute name text))⟩ ∧
          (Number.integer (200 * (10 ^ 308 + 1))).written = .ok text := by
  intro settings
  refine ⟨by decide +kernel, ?_⟩
  obtain ⟨document, drawn⟩ : ∃ document, (ofScene settings farScene).outcome = .ok document :=
    exists_of_isOk (by decide +kernel)
  have known : (drawnShapes (flatten farScene)).mapM (image settings.canvas) =
      .ok [.circle (200 * (10 ^ 308 + 1)) 200 200 255] := by
    decide +kernel
  obtain ⟨images, imaged, elements, shows, read⟩ := exists_byKind drawn
  rw [known] at imaged
  cases imaged
  obtain ⟨name, text, ended, shown, member, position, inside, beyond, written⟩ :=
    shapes_of_large settings rfl rfl shows (by decide +kernel)
  refine ⟨document, drawn, name, text, (read settings).trans ended, ?_⟩
  -- The other scalars of the circle are far below the bound.
  have only : position = 200 * (10 ^ 308 + 1) := by
    cases List.mem_singleton.1 (mem_of_mem_byKind member)
    have others : ∀ position ∈ [200 * (10 ^ 308 + 1), 200, (200 : Int)],
        2 ^ 1024 - 2 ^ 970 ≤ |position| → position = 200 * (10 ^ 308 + 1) := by
      decide +kernel
    exact others position inside beyond
  rw [← only]
  exact written

end VectorScene.Drawing
