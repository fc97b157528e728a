import VectorScene.Proofs.Drawing.Image
import VectorScene.Proofs.Markup.Legal
import VectorScene.Proofs.Markup.Plain
import VectorScene.Proofs.Number.Range
import VectorScene.Proofs.Points.Written

/-!
# Elements of shapes read back

The element of a shape is plain, holds only legal characters, and is read as the
image of the shape.
-/

namespace VectorScene

open VectorScene.Markup VectorScene.Text VectorScene.Number

/-! ## Legal values -/

theorem legalText_integerText (value : Int) : LegalText (integerText value) := by
  intro c member
  obtain ⟨ascii, visible, -⟩ := isNumeral_range (isNumeral_of_mem_integerText member)
  exact isLegal_of_le visible.le (ascii.le.trans (by decide))

theorem legalText_of_text? {value : Int} {text : List Char}
    (written : (Number.integer value).text? = some text) : LegalText text := by
  rw [(text?_eq_some written).2]
  exact legalText_integerText value

theorem legalText_written {value : Int} {text : String}
    (written : (Number.integer value).written = .ok text) : LegalText text.toList := by
  obtain ⟨cs, found, rfl⟩ := Points.written_eq_ok.1 written
  rw [String.toList_ofList]
  exact legalText_of_text? found

theorem legalText_joined {points : List (List Char × List Char)}
    (legal : ∀ point ∈ points, LegalText point.1 ∧ LegalText point.2) :
    LegalText (Points.joined points) := by
  have comma : isLegal ',' = true := rfl
  have space : LegalText [' '] := by decide
  induction points with
  | nil => exact legalText_nil
  | cons point rest ih =>
      obtain ⟨first, second⟩ := point
      obtain ⟨x, y⟩ := legal (first, second) List.mem_cons_self
      have later := ih fun other member => legal other (List.mem_cons_of_mem _ member)
      have written : LegalText (first ++ ',' :: second) :=
        legalText_append.2 ⟨x, legalText_cons.2 ⟨comma, y⟩⟩
      cases rest with
      | nil =>
          rw [Points.joined, List.map_cons, List.map_nil, List.intercalate_singleton]
          exact written
      | cons next rest =>
          rw [Points.joined, List.map_cons, List.map_cons, List.intercalate_cons_cons]
          exact legalText_append.2 ⟨legalText_append.2 ⟨written, space⟩, later⟩

theorem legalText_writtenList {points : List (Int × Int)} {text : String}
    (written : Row.writtenList (points.map Row.ofPixels) = .ok text) : LegalText text.toList := by
  obtain ⟨texts, writes, same⟩ := Points.exists_joined written
  rw [same]
  refine legalText_joined (forall_right writes fun point pair inside => ?_)
  exact ⟨legalText_of_text? inside.1, legalText_of_text? inside.2⟩

theorem isLegal_of_isHexDigit {c : Char} (hex : isHexDigit c = true) : isLegal c = true := by
  simp only [isHexDigit, Bool.or_eq_true] at hex
  rcases hex with (digit | lower) | upper
  · rw [isDigit] at digit
    exact isLegal_of_letter (by decide) (by decide) digit
  · exact isLegal_of_letter (by decide) (by decide) lower
  · exact isLegal_of_letter (by decide) (by decide) upper

theorem legalText_style {color : Value} {style : String}
    (styled : Stroke.style color = .ok style) : LegalText style.toList := by
  have legal (color : Int) :
      LegalText ("fill:none;stroke:" ++ String.ofList (Stroke.written color)).toList := by
    have front : LegalText "fill:none;stroke:".toList := by decide
    have written : LegalText (Stroke.written color) := by
      rw [Stroke.written, legalText_cons]
      refine ⟨rfl, ?_⟩
      intro c member
      exact isLegal_of_isHexDigit (isHexDigit_of_mem_hexadecimalDigits member)
    rw [String.toList_append]
    refine legalText_append.2 ⟨front, ?_⟩
    rw [String.toList_ofList]
    exact written
  obtain ⟨text, written, rfl⟩ := map_eq_ok.1 styled
  unfold Stroke.valueWritten at written
  split at written
  next =>
    cases written
    exact legal _
  next =>
    cases written
    exact legal _
  next => cases written

/-! ## Attributes of elements -/

namespace Drawing

/-- The attributes of the element of a shape. -/
def elementAttributes (texts : Shape String String String) : List (String × String) :=
  texts.kind.geometry.zip texts.geometryTexts ++ [("style", texts.color)]

theorem names_elementAttributes (texts : Shape String String String) :
    Attributes.names (elementAttributes texts) = texts.kind.geometry ++ ["style"] := by
  cases texts <;> rfl

theorem plainAttributes (texts : Shape String String String) :
    PlainAttributes (elementAttributes texts) := by
  have names : ∀ name ∈ texts.kind.geometry ++ ["style"],
      isPlainName name.toList = true ∧ name ≠ "xmlns" := by
    cases texts.kind <;> decide
  have nodup : (texts.kind.geometry ++ ["style"]).Nodup := by
    cases texts.kind <;> decide
  rw [← names_elementAttributes] at names nodup
  constructor
  · intro pair member
    exact names pair.1 (List.mem_map_of_mem member)
  · exact nodup

theorem isPlainName_tag (kind : Kind) : isPlainName kind.tag.toList = true := by
  cases kind <;> decide

/-- The element of a shape written out. -/
theorem shape_eq (texts : Shape String String String) :
    shape texts.kind texts.geometryTexts [("style", texts.color)] =
      .element texts.kind.tag (elementAttributes texts) none [] none := by
  rw [shape, element]
  exact congrArg (Node.element _ · none [] none)
    (Attributes.ofList_eq_self (plainAttributes texts).nodup)

/-- The attributes of the element of a shape are found by the names that are looked
up when the shape is read. -/
theorem related_template (texts : Shape String String String) :
    Shape.Related (fun _ name text => Attributes.get? (elementAttributes texts) name = some text)
      (fun name text => Attributes.get? (elementAttributes texts) name = some text)
      (fun _ color => Attributes.get? (elementAttributes texts) "style" = some color)
      texts.kind.template texts := by
  cases texts with
  | line => exact .line rfl rfl rfl rfl rfl
  | circle => exact .circle rfl rfl rfl rfl
  | rect => exact .rect rfl rfl rfl rfl rfl
  | polygon => exact .polygon rfl rfl
  | ellipse => exact .ellipse rfl rfl rfl rfl rfl

theorem legalText_geometryTexts {pixels : PixelShape} {texts : Shape String String String}
    (written : shapeTexts pixels = .ok texts) :
    ∀ text ∈ texts.geometryTexts, LegalText text.toList := by
  have related := Shape.mapM_eq_ok.1 written
  cases related with
  | line x1 y1 x2 y2 color =>
      simp only [Shape.geometryTexts, List.forall_mem_cons]
      exact ⟨legalText_written x1, legalText_written y1, legalText_written x2,
        legalText_written y2, List.forall_mem_nil _⟩
  | circle cx cy r color =>
      simp only [Shape.geometryTexts, List.forall_mem_cons]
      exact ⟨legalText_written cx, legalText_written cy, legalText_written r,
        List.forall_mem_nil _⟩
  | rect x y width height color =>
      simp only [Shape.geometryTexts, List.forall_mem_cons]
      exact ⟨legalText_written x, legalText_written y, legalText_written width,
        legalText_written height, List.forall_mem_nil _⟩
  | polygon points color =>
      simp only [Shape.geometryTexts, List.forall_mem_cons]
      exact ⟨legalText_writtenList points, List.forall_mem_nil _⟩
  | ellipse cx cy rx ry color =>
      simp only [Shape.geometryTexts, List.forall_mem_cons]
      exact ⟨legalText_written cx, legalText_written cy, legalText_written rx,
        legalText_written ry, List.forall_mem_nil _⟩

theorem color_eq_of_shapeTexts {pixels : PixelShape} {texts : Shape String String String}
    (written : shapeTexts pixels = .ok texts) : texts.color = pixels.color := by
  have related := Shape.mapM_eq_ok.1 written
  cases related with
  | line _ _ _ _ color => exact (Except.ok.inj color).symm
  | circle _ _ _ color => exact (Except.ok.inj color).symm
  | rect _ _ _ _ color => exact (Except.ok.inj color).symm
  | polygon _ color => exact (Except.ok.inj color).symm
  | ellipse _ _ _ _ color => exact (Except.ok.inj color).symm

theorem legalText_color {canvas : Canvas} {scene : SceneShape} {pixels : PixelShape}
    (mapped : pixelShape canvas scene = .ok pixels) : LegalText pixels.color.toList := by
  have related := Shape.mapM_eq_ok.1 mapped
  cases related with
  | line _ _ _ _ color => exact legalText_style color
  | circle _ _ _ color => exact legalText_style color
  | rect _ _ _ _ color => exact legalText_style color
  | polygon _ color => exact legalText_style color
  | ellipse _ _ _ _ color => exact legalText_style color

/-- The values of the element of a shape are legal. -/
theorem legalText_elementAttributes {canvas : Canvas} {scene : SceneShape} {pixels : PixelShape}
    {texts : Shape String String String} (mapped : pixelShape canvas scene = .ok pixels)
    (written : shapeTexts pixels = .ok texts) :
    ∀ pair ∈ elementAttributes texts, LegalText pair.2.toList := by
  intro pair member
  rcases List.mem_append.1 member with geometry | style
  · exact legalText_geometryTexts written pair.2 (List.of_mem_zip geometry).2
  · rw [List.mem_singleton.1 style, color_eq_of_shapeTexts written]
    exact legalText_color mapped

/-! ## Reading elements -/

section

variable {node : Node String} {name text : String} {value : Int}

/-- An integer that is written is read if it is small enough for a binary64 number, and
refused otherwise. -/
theorem number_of_written (found : node.get? name = some text)
    (written : (Number.integer value).written = .ok text) :
    Reading.number node name =
      if |value| < 2 ^ 1024 - 2 ^ 970 then .ok (.integer value)
      else .error (.invalidAttribute name text) := by
  obtain ⟨cs, textual, rfl⟩ := Points.written_eq_ok.1 written
  have trimmed : trim cs = cs := by
    rw [(text?_eq_some textual).2]
    exact trim_numerals fun _ => isNumeral_of_mem_integerText
  rw [Reading.number, found]
  simp only [String.toList_ofList, trimmed, ofText?_of_text? textual, isFinite_integer value]

theorem small_of_number {number : Number} (found : node.get? name = some text)
    (written : (Number.integer value).written = .ok text)
    (read : Reading.number node name = .ok number) : |value| < 2 ^ 1024 - 2 ^ 970 := by
  by_contra large
  rw [number_of_written found written, if_neg large] at read
  cases read

theorem number_eq_error {cause : Defect} (found : node.get? name = some text)
    (written : (Number.integer value).written = .ok text)
    (failed : Reading.number node name = .error cause) :
    2 ^ 1024 - 2 ^ 970 ≤ |value| ∧ cause = .invalidAttribute name text := by
  rw [number_of_written found written] at failed
  split at failed
  next => cases failed
  next large =>
    cases failed
    exact ⟨not_lt.1 large, rfl⟩

end

theorem points_of_written {node : Node String} {name text : String} {vertices : List (Int × Int)}
    (found : node.get? name = some text)
    (written : Row.writtenList (vertices.map Row.ofPixels) = .ok text) :
    Reading.points node name =
      .ok (vertices.map fun point => (.integer point.1, .integer point.2)) := by
  obtain ⟨wellFormed, parsed⟩ := Points.parse_writtenList written
  rw [Reading.points, found]
  simp only [wellFormed, parsed, if_true]

theorem related_asRead {scalar : Axis → String → Number → Prop}
    {vertices : String → List (Number × Number) → Prop} {color : Unit → Int → Prop}
    {names : Shape String String Unit} {shown : PixelImage}
    (related : Shape.Related (fun axis name position => scalar axis name (.integer position))
      (fun name points =>
        vertices name (points.map fun point => (.integer point.1, .integer point.2)))
      color names shown) : Shape.Related scalar vertices color names (asRead shown) := by
  cases related with
  | line x1 y1 x2 y2 color => exact .line x1 y1 x2 y2 color
  | circle cx cy r color => exact .circle cx cy r color
  | rect x y width height color => exact .rect x y width height color
  | polygon points color => exact .polygon points color
  | ellipse cx cy rx ry color => exact .ellipse cx cy rx ry color

section

variable {pixels : PixelShape} {texts : Shape String String String} {shown : PixelImage}
  {node : Node String}

/-- The attributes of the element of a shape hold the image of the shape, its scalars as
texts. -/
theorem related_written (written : shapeTexts pixels = .ok texts)
    (imaged : Shape.Related (fun _ => Eq) Eq
      (fun style color => Stroke.read (some style) = .ok color) pixels shown)
    (attributes : node.attributes = elementAttributes texts) :
    Shape.Related
      (fun _ name position => ∃ text, node.get? name = some text ∧
        (Number.integer position).written = .ok text)
      (fun name points => Reading.points node name =
        .ok (points.map fun point => (.integer point.1, .integer point.2)))
      (fun _ color => Stroke.read (node.get? "style") = .ok color) texts.kind.template shown := by
  have looked := related_template texts
  rw [← attributes] at looked
  have named : Shape.Related
      (fun _ name position => ∃ text, node.get? name = some text ∧
        (Number.integer position).written = .ok text)
      (fun name points => ∃ text, node.get? name = some text ∧
        Row.writtenList (points.map Row.ofPixels) = .ok text)
      (fun _ style => node.get? "style" = some style) texts.kind.template pixels :=
    looked.trans (Shape.mapM_eq_ok.1 written).symm
      (fun _ _ text _ _ found textual => ⟨text, found, textual⟩)
      (fun _ text _ found textual => ⟨text, found, textual⟩)
      (fun _ _ _ found same => found.trans (congrArg some (Except.ok.inj same).symm))
  refine named.trans imaged ?_ ?_ ?_
  · rintro _ name _ position - textual rfl
    exact textual
  · rintro name _ points ⟨text, found, textual⟩ rfl
    exact points_of_written found textual
  · intro _ style color found declared
    rw [found]
    exact declared

/-- The element of a shape is read as the image of the shape. -/
theorem shape_of_written (written : shapeTexts pixels = .ok texts)
    (imaged : Shape.Related (fun _ => Eq) Eq
      (fun style color => Stroke.read (some style) = .ok color) pixels shown)
    (small : ∀ position ∈ shown.scalars, |position| < 2 ^ 1024 - 2 ^ 970)
    (attributes : node.attributes = elementAttributes texts) :
    Reading.shape texts.kind node = .ok (asRead shown) := by
  have read : Shape.Related
      (fun _ name position => Reading.number node name = .ok (.integer position))
      (fun name points => Reading.points node name =
        .ok (points.map fun point => (.integer point.1, .integer point.2)))
      (fun _ color => Stroke.read (node.get? "style") = .ok color) texts.kind.template shown := by
    refine (related_written written imaged attributes).trans (.refl shown) ?_ ?_ ?_
    · rintro _ name _ position member ⟨text, found, textual⟩ rfl
      rw [number_of_written found textual, if_pos (small _ member)]
    · rintro name _ points readHere rfl
      exact readHere
    · rintro _ _ color readHere rfl
      exact readHere
  exact Shape.mapM_eq_ok.2 (related_asRead read)

/-- The element of a shape is refused when a scalar is too large, for an attribute that
holds one. -/
theorem shape_of_written_large (written : shapeTexts pixels = .ok texts)
    (imaged : Shape.Related (fun _ => Eq) Eq
      (fun style color => Stroke.read (some style) = .ok color) pixels shown)
    (large : ∃ position ∈ shown.scalars, 2 ^ 1024 - 2 ^ 970 ≤ |position|)
    (attributes : node.attributes = elementAttributes texts) :
    ∃ name text, Reading.shape texts.kind node = .error (.invalidAttribute name text) ∧
      ∃ position ∈ shown.scalars, 2 ^ 1024 - 2 ^ 970 ≤ |position| ∧
        (Number.integer position).written = .ok text := by
  have held := related_written written imaged attributes
  cases read : Reading.shape texts.kind node with
  | ok result =>
      obtain ⟨position, member, beyond⟩ := large
      obtain ⟨name, named, _, text, found, textual⟩ := exists_left held.forall₂_scalars member
      obtain ⟨number, -, _, readHere⟩ :=
        exists_right (Shape.mapM_eq_ok.1 read).forall₂_scalars named
      exact absurd (small_of_number found textual readHere) (not_lt.2 beyond)
  | error cause =>
      rcases Shape.exists_of_mapM_eq_error read with
        ⟨_, name, named, failed⟩ | ⟨points, named, failed⟩ | failed
      · obtain ⟨position, member, _, text, found, textual⟩ :=
          exists_right held.forall₂_scalars named
        obtain ⟨beyond, rfl⟩ := number_eq_error found textual failed
        exact ⟨name, text, rfl, position, member, beyond, textual⟩
      · obtain ⟨vertices, -, readHere⟩ := held.exists_vertices named
        rw [readHere] at failed
        cases failed
      · have readHere := held.color_related
        rw [readHere] at failed
        cases failed

end

end Drawing

end VectorScene
