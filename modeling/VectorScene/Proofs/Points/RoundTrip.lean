import VectorScene.Proofs.Canvas.Vertices
import VectorScene.Proofs.Points.Real
import VectorScene.Proofs.Points.Written

/-!
# Points written and read again

A list of points is written as the texts of its numbers with separators between them.  Each of
these texts is a coordinate as a whole, so that reading finds just these texts, and each is read
as the number that it was written for.
-/

namespace VectorScene.Points

open VectorScene.Text VectorScene.Number VectorScene.Canvas

/-- Whether a number is finite and, as an integer, has no more digits than are written. -/
def Writable : Number → Prop
  | .integer value => value.natAbs < 10 ^ maxDigits
  | .real value => value.isFinite = true

instance : DecidablePred Writable
  | .integer value => inferInstanceAs (Decidable (value.natAbs < 10 ^ maxDigits))
  | .real value => inferInstanceAs (Decidable (value.isFinite = true))

/-! ## Numbers -/

theorem prints_real {real : Binary64} (finite : real.isFinite = true) :
    Prints (.real real) real.text where
  written := rfl
  coordinate := isCoordinate_iff.2 (form_text finite)
  read := by rw [value, ofText?_text finite]

/-- A writable number has a text. -/
theorem exists_prints {number : Number} (writable : Writable number) :
    ∃ text, Prints number text := by
  cases number with
  | real value => exact ⟨value.text, prints_real writable⟩
  | integer value =>
      have short : (decimalDigits value.natAbs).length ≤ maxDigits :=
        (Nat.length_toDigits_le_iff (by decide) (by decide)).2 writable
      exact ⟨integerText value, prints_integer (if_pos short)⟩

/-! ## Lists of points -/

section

variable {points : List (Number × Number)} {texts : List (List Char × List Char)}

theorem exists_printsPoints
    (writable : ∀ point ∈ points, Writable point.1 ∧ Writable point.2) :
    ∃ texts, List.Forall₂ PrintsPoint points texts := by
  induction points with
  | nil => exact ⟨[], .nil⟩
  | cons point rest ih =>
      rw [List.forall_mem_cons] at writable
      obtain ⟨x, printsX⟩ := exists_prints writable.1.1
      obtain ⟨y, printsY⟩ := exists_prints writable.1.2
      obtain ⟨others, prints⟩ := ih writable.2
      exact ⟨(x, y) :: others, .cons ⟨printsX, printsY⟩ prints⟩

theorem writtenList_points (prints : List.Forall₂ PrintsPoint points texts) :
    Row.writtenList (points.map Row.ofPoint) = .ok (String.ofList (joined texts)) := by
  apply writtenList_numbers.2
  exact ⟨texts, prints.imp fun _ _ pair => ⟨pair.1.written, pair.2.written⟩, rfl⟩

/-- The coordinates that a written list is cut into are the texts of its numbers. -/
theorem tokens_joined (prints : List.Forall₂ PrintsPoint points texts) :
    (cut (joined texts)).tokens.map some = (coordinates points).map Number.text? := by
  rw [cut_joined (isCoordinate_of_prints prints), Cut.tokens, map_fst_parts]
  induction prints with
  | nil => rfl
  | cons head _ ih =>
      rw [coordinates] at ih
      rw [coordinates, List.flatMap_cons, List.flatMap_cons, List.map_append, List.map_append, ih]
      simp only [List.map_cons, List.map_nil, head.1.written, head.2.written]

end

/-- Points with writable numbers are written as a well-formed list, whose coordinates are just the
texts of the numbers in their order, and which is read as the same points. -/
theorem writtenList_inverse {points : List (Number × Number)}
    (writable : ∀ point ∈ points, Writable point.1 ∧ Writable point.2) :
    ∃ text, Row.writtenList (points.map Row.ofPoint) = .ok text ∧
      (cut text.toList).tokens.map some = (coordinates points).map Number.text? ∧
      (cut text.toList).wellFormed = true ∧ parse text.toList = .ok points := by
  obtain ⟨texts, prints⟩ := exists_printsPoints writable
  refine ⟨String.ofList (joined texts), writtenList_points prints, ?_⟩
  rw [String.toList_ofList]
  exact ⟨tokens_joined prints, wellFormed_joined (isCoordinate_of_prints prints),
    parse_prints prints⟩

/-- A negative number, one that has no nearest real number, a negative zero, and real numbers
written with an exponent. -/
def extremePoints : List (Number × Number) :=
  [(.integer (-7), .integer 9007199254740993),
    (.real (.signedZero true), .real (.ofRat (mkRat 10000000000000000 1))),
    (.real (.finite false ⟨1, by decide⟩), .real (.ofRat (mkRat (-1) 3)))]

theorem writtenList_inverse_extreme :
    (∀ point ∈ extremePoints, Writable point.1 ∧ Writable point.2) ∧
      Row.writtenList (extremePoints.map Row.ofPoint) =
        .ok "-7,9007199254740993 -0.0,1e+16 5e-324,-0.3333333333333333" ∧
      parse "-7,9007199254740993 -0.0,1e+16 5e-324,-0.3333333333333333".toList =
        .ok extremePoints := by
  have writable : ∀ point ∈ extremePoints, Writable point.1 ∧ Writable point.2 := by
    decide +kernel
  have written : Row.writtenList (extremePoints.map Row.ofPoint) =
        .ok "-7,9007199254740993 -0.0,1e+16 5e-324,-0.3333333333333333" := by
    decide +kernel
  obtain ⟨text, same, -, -, parsed⟩ := writtenList_inverse writable
  rw [written] at same
  cases same
  exact ⟨writable, written, parsed⟩

end VectorScene.Points
