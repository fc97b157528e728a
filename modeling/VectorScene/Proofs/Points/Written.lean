import VectorScene.Points.List
import VectorScene.Points.Row
import VectorScene.Proofs.Points.Coordinate
import VectorScene.Proofs.Run

/-!
# Written lists of points

A list of points is written with a comma between the coordinates of a point and a
space between points.  Such a text is cut into just the coordinates, is
well-formed, and is read as the points.
-/

namespace VectorScene.Points

open VectorScene.Text VectorScene.Number

/-- The text of a list of points, given the texts of their coordinates. -/
def joined (points : List (List Char × List Char)) : List Char :=
  [' '].intercalate (points.map fun (x, y) => x ++ ',' :: y)

/-- The coordinates of a list of points, each with the gap after it. -/
def parts : List (List Char × List Char) → List (List Char × List Char)
  | [] => []
  | [(x, y)] => [(x, [',']), (y, [])]
  | (x, y) :: next :: rest => (x, [',']) :: (y, [' ']) :: parts (next :: rest)

/-- A written list of points is cut into its coordinates. -/
theorem cut_joined {points : List (List Char × List Char)}
    (coordinates : ∀ point ∈ points, IsCoordinate point.1 ∧ IsCoordinate point.2) :
    cut (joined points) = ⟨[], parts points⟩ := by
  have comma : isNumeral ',' = false := by decide
  have space : isNumeral ' ' = false := by decide
  induction points with
  | nil => rw [joined, List.map_nil, List.intercalate_nil, cut, parts]
  | cons point rest ih =>
      obtain ⟨x, y⟩ := point
      obtain ⟨isX, isY⟩ := coordinates (x, y) List.mem_cons_self
      have restCut := ih fun other member => coordinates other (List.mem_cons_of_mem _ member)
      cases rest with
      | nil =>
          have ended := cut_coordinate isY stops_nil
          rw [List.append_nil] at ended
          rw [joined, List.map_singleton, List.intercalate_singleton,
            cut_coordinate isX (stops_cons comma y), cut_inert comma, ended, cut, parts]
      | cons next rest =>
          have text : joined ((x, y) :: next :: rest) =
              x ++ ',' :: (y ++ ' ' :: joined (next :: rest)) := by
            simp [joined, List.intercalate_cons_cons]
          rw [text, cut_coordinate isX (stops_cons comma _), cut_inert comma,
            cut_coordinate isY (stops_cons space _), cut_inert space, restCut, parts]

/-! ## The parts of a written list -/

theorem tokens_parts (points : List (List Char × List Char)) :
    pairs ((parts points).map Prod.fst) = points := by
  induction points using parts.induct with
  | case1 => rfl
  | case2 => rfl
  | case3 x y next rest ih =>
      rw [parts, List.map_cons, List.map_cons, pairs, ih]

theorem map_fst_parts (points : List (List Char × List Char)) :
    (parts points).map Prod.fst = points.flatMap fun point => [point.1, point.2] := by
  induction points using parts.induct with
  | case1 => rfl
  | case2 => rfl
  | case3 x y next rest ih =>
      rw [parts, List.map_cons, List.map_cons, ih]
      rfl

theorem length_parts (points : List (List Char × List Char)) :
    (parts points).length = 2 * points.length := by
  induction points using parts.induct with
  | case1 => rfl
  | case2 => rfl
  | case3 x y next rest ih =>
      simp only [parts, List.length_cons] at ih ⊢
      omega

theorem parts_ne_nil (point : List Char × List Char) (rest : List (List Char × List Char)) :
    parts (point :: rest) ≠ [] := by
  intro empty
  have length := length_parts (point :: rest)
  rw [empty, List.length_nil, List.length_cons] at length
  omega

/-- Nothing follows the last coordinate. -/
theorem lastGap_parts (points : List (List Char × List Char)) :
    ((parts points).map Prod.snd).getLastD [] = [] := by
  induction points using parts.induct with
  | case1 => rfl
  | case2 => rfl
  | case3 x y next rest ih =>
      cases rest' : parts (next :: rest) with
      | nil => exact absurd rest' (parts_ne_nil next rest)
      | cons part others =>
          rw [rest'] at ih
          simpa [parts, rest', List.getLastD] using ih

/-- All other gaps are a comma or a space. -/
theorem separators_parts (points : List (List Char × List Char)) :
    ((parts points).map Prod.snd).dropLast.all isSeparator = true := by
  induction points using parts.induct with
  | case1 => rfl
  | case2 => rfl
  | case3 x y next rest ih =>
      cases rest' : parts (next :: rest) with
      | nil => exact absurd rest' (parts_ne_nil next rest)
      | cons part others =>
          have comma : isSeparator [','] = true := by decide
          have space : isSeparator [' '] = true := by decide
          rw [rest'] at ih
          simpa [parts, rest', comma, space] using ih

/-- A written list of points is well-formed. -/
theorem wellFormed_joined {points : List (List Char × List Char)}
    (coordinates : ∀ point ∈ points, IsCoordinate point.1 ∧ IsCoordinate point.2) :
    (cut (joined points)).wellFormed = true := by
  rw [cut_joined coordinates, Cut.wellFormed, Cut.gaps, lastGap_parts, separators_parts,
    length_parts, Nat.mul_mod_right]
  rfl

/-- A written list of points is read point by point. -/
theorem parse_joined {points : List (List Char × List Char)}
    (coordinates : ∀ point ∈ points, IsCoordinate point.1 ∧ IsCoordinate point.2) :
    parse (joined points) = points.mapM fun (x, y) => do
      let numberX ← value x
      let numberY ← value y
      return (numberX, numberY) := by
  rw [parse, cut_joined coordinates, Cut.tokens, tokens_parts]

/-! ## Points and their texts -/

/-- The texts of the numbers of a point. -/
def Texts (point : Number × Number) (pair : List Char × List Char) : Prop :=
  point.1.text? = some pair.1 ∧ point.2.text? = some pair.2

theorem written_eq_ok {number : Number} {text : String} :
    number.written = .ok text ↔ ∃ cs, number.text? = some cs ∧ String.ofList cs = text := by
  rw [Number.written]
  cases number.text? <;> simp

/-- A point is written as the texts of its numbers with a comma between. -/
theorem written_numbers {point : Number × Number} {text : String} :
    (Row.several [.number point.1, .number point.2]).written = .ok text ↔
      ∃ pair, Texts point pair ∧ String.ofList (pair.1 ++ ',' :: pair.2) = text := by
  have comma (x y : List Char) : String.ofList x ++ "," ++ String.ofList y =
      String.ofList (x ++ ',' :: y) := by
    apply String.toList_injective
    simp
  rw [Row.written, Row.pair, ok_bind]
  dsimp only
  simp only [Value.written, bind_eq_ok, written_eq_ok, pure_eq_ok]
  constructor
  · rintro ⟨_, ⟨x, textX, rfl⟩, _, ⟨y, textY, rfl⟩, rfl⟩
    exact ⟨(x, y), ⟨textX, textY⟩, (comma x y).symm⟩
  · rintro ⟨⟨x, y⟩, ⟨textX, textY⟩, rfl⟩
    exact ⟨_, ⟨x, textX, rfl⟩, _, ⟨y, textY, rfl⟩, comma x y⟩

/-- A list of points is written with a space between them. -/
theorem writtenList_numbers {points : List (Number × Number)} {text : String} :
    Row.writtenList (points.map fun point => .several [.number point.1, .number point.2]) =
        .ok text ↔
      ∃ texts, List.Forall₂ Texts points texts ∧ String.ofList (joined texts) = text := by
  have spaced (texts : List (List Char × List Char)) :
      String.intercalate " " (texts.map fun pair => String.ofList (pair.1 ++ ',' :: pair.2)) =
        String.ofList (joined texts) := by
    apply String.toList_injective
    rw [String.toList_intercalate, String.toList_ofList, List.map_map]
    simp [joined, Function.comp_def]
  simp only [Row.writtenList, bind_eq_ok, mapM_eq_ok, List.forall₂_map_left_iff, written_numbers,
    forall₂_map_eq, pure_eq_ok]
  constructor
  · rintro ⟨_, ⟨texts, all, rfl⟩, rfl⟩
    exact ⟨texts, all, (spaced texts).symm⟩
  · rintro ⟨texts, all, rfl⟩
    exact ⟨_, ⟨texts, all, rfl⟩, spaced texts⟩

/-- A number and its text, a coordinate that is read as the number. -/
structure Prints (number : Number) (text : List Char) : Prop where
  written : number.text? = some text
  coordinate : IsCoordinate text
  read : value text = .ok number

/-- A point and the texts of its numbers. -/
def PrintsPoint (point : Number × Number) (texts : List Char × List Char) : Prop :=
  Prints point.1 texts.1 ∧ Prints point.2 texts.2

section

variable {points : List (Number × Number)} {texts : List (List Char × List Char)}
  (prints : List.Forall₂ PrintsPoint points texts)

include prints

theorem isCoordinate_of_prints : ∀ pair ∈ texts, IsCoordinate pair.1 ∧ IsCoordinate pair.2 :=
  forall_right prints fun _ _ pair => ⟨pair.1.coordinate, pair.2.coordinate⟩

theorem parse_prints : parse (joined texts) = .ok points := by
  rw [parse_joined (isCoordinate_of_prints prints), mapM_eq_ok]
  refine prints.flip.imp ?_
  rintro ⟨x, y⟩ point ⟨printsX, printsY⟩
  simp only [printsX.read, printsY.read]
  rfl

end

/-! ## Points with integer coordinates -/

/-- The texts of an integer point. -/
def Writes (point : Int × Int) (texts : List Char × List Char) : Prop :=
  (Number.integer point.1).text? = some texts.1 ∧ (Number.integer point.2).text? = some texts.2

/-- The texts of a list of integer points. -/
theorem exists_joined {points : List (Int × Int)} {text : String}
    (written : Row.writtenList (points.map Row.ofPixels) = .ok text) :
    ∃ texts, List.Forall₂ Writes points texts ∧ text.toList = joined texts := by
  have numbers : points.map Row.ofPixels =
      (points.map fun point => (Number.integer point.1, Number.integer point.2)).map
        fun point => .several [.number point.1, .number point.2] := by
    rw [List.map_map]
    rfl
  rw [numbers, writtenList_numbers] at written
  obtain ⟨texts, all, rfl⟩ := written
  rw [List.forall₂_map_left_iff] at all
  exact ⟨texts, all, String.toList_ofList⟩

theorem prints_integer {integer : Int} {text : List Char}
    (written : (Number.integer integer).text? = some text) : Prints (.integer integer) text where
  written := written
  coordinate := by
    rw [(text?_eq_some written).2]
    exact isCoordinate_integerText integer
  read := by rw [value, ofText?_of_text? written]

/-- A written list of integer points is well-formed and read as the same points,
each coordinate as the same integer. -/
theorem parse_writtenList {points : List (Int × Int)} {text : String}
    (written : Row.writtenList (points.map Row.ofPixels) = .ok text) :
    (cut text.toList).wellFormed = true ∧
      parse text.toList =
        .ok (points.map fun point => (Number.integer point.1, Number.integer point.2)) := by
  obtain ⟨texts, writes, same⟩ := exists_joined written
  have prints : List.Forall₂ PrintsPoint
      (points.map fun point => (Number.integer point.1, Number.integer point.2)) texts := by
    rw [List.forall₂_map_left_iff]
    exact writes.imp fun _ _ pair => ⟨prints_integer pair.1, prints_integer pair.2⟩
  rw [same]
  exact ⟨wellFormed_joined (isCoordinate_of_prints prints), parse_prints prints⟩

end VectorScene.Points
