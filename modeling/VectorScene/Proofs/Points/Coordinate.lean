import VectorScene.Points.Coordinate
import VectorScene.Proofs.Number.Literal
import VectorScene.Proofs.Text.Span

/-!
# Coordinates before other text

A coordinate is split off in the same way whatever follows, as long as no
character of a number follows directly.  A text of coordinates with such
characters between them is cut into just these.
-/

namespace VectorScene.Points

open VectorScene.Text VectorScene.Number

/-- A text that does not continue a number. -/
def Stops (text : List Char) : Prop :=
  ∀ c ∈ text.head?, isNumeral c = false

theorem stops_nil : Stops [] := by
  intro c member
  cases member

theorem stops_cons {c : Char} (inert : isNumeral c = false) (rest : List Char) :
    Stops (c :: rest) := by
  intro d member
  rw [List.head?_cons, Option.mem_def, Option.some.injEq] at member
  exact member ▸ inert

/-- A character that is no numeral is no sign, digit, point or exponent mark. -/
theorem not_isNumeral {c : Char} (inert : isNumeral c = false) :
    isDigit c = false ∧ c ≠ '+' ∧ c ≠ '-' ∧ c ≠ '.' ∧ c ≠ 'e' ∧ c ≠ 'E' := by
  simpa [isNumeral] using inert

section Append

variable {rest : List Char}

theorem splitSign_stop (stops : Stops rest) (text : List Char) :
    splitSign (text ++ rest) = ((splitSign text).1, (splitSign text).2 ++ rest) := by
  cases text with
  | nil =>
      cases rest with
      | nil => rfl
      | cons c rest =>
          obtain ⟨-, plus, minus, -⟩ := not_isNumeral (stops c rfl)
          simp [splitSign, plus, minus]
  | cons c text =>
      simp only [splitSign, List.cons_append]
      split <;> simp_all

theorem splitDigits_stop (stops : Stops rest) (text : List Char) :
    splitDigits (text ++ rest) = ((splitDigits text).1, (splitDigits text).2 ++ rest) := by
  have noDigit : ∀ c ∈ rest.head?, isDigit c = false :=
    fun c member => (not_isNumeral (stops c member)).1
  rw [splitDigits, takeWhile_append_of_stop noDigit, dropWhile_append_of_stop noDigit]
  rfl

theorem splitFraction_stop (stops : Stops rest) (text : List Char) :
    splitFraction (text ++ rest) =
      ((splitFraction text).1, (splitFraction text).2 ++ rest) := by
  cases text with
  | nil =>
      cases rest with
      | nil => rfl
      | cons c rest =>
          obtain ⟨-, -, -, point, -⟩ := not_isNumeral (stops c rfl)
          simp [splitFraction, point]
  | cons c text =>
      by_cases point : c = '.'
      · subst point
        simp only [splitFraction, List.cons_append, splitDigits_stop stops text]
        split <;> rfl
      · simp [splitFraction, point]

theorem splitExponent_stop (stops : Stops rest) (text : List Char) :
    splitExponent (text ++ rest) =
      ((splitExponent text).1, (splitExponent text).2 ++ rest) := by
  cases text with
  | nil =>
      cases rest with
      | nil => rfl
      | cons c rest =>
          obtain ⟨-, -, -, -, lower, upper⟩ := not_isNumeral (stops c rfl)
          simp [splitExponent, lower, upper]
  | cons c text =>
      simp only [splitExponent, List.cons_append]
      split
      · simp only [splitSign_stop stops text, splitDigits_stop stops]
        split <;> rfl
      · rfl

/-- What follows a coordinate does not change where it ends. -/
theorem splitCoordinate?_stop (stops : Stops rest) (text : List Char) :
    splitCoordinate? (text ++ rest) =
      (splitCoordinate? text).map fun (token, after) => (token, after ++ rest) := by
  simp only [splitCoordinate?, splitSign_stop stops, splitDigits_stop stops,
    splitFraction_stop stops, splitExponent_stop stops]
  split <;> rfl

end Append

/-- No coordinate starts with a character that is no numeral. -/
theorem splitCoordinate?_inert {c : Char} (inert : isNumeral c = false) (rest : List Char) :
    splitCoordinate? (c :: rest) = none := by
  have none_of_nil := splitCoordinate?_stop (stops_cons inert rest) []
  rw [List.nil_append] at none_of_nil
  rw [none_of_nil]
  rfl

/-! ## Cutting -/

/-- A text that is a coordinate as a whole. -/
def IsCoordinate (text : List Char) : Prop :=
  splitCoordinate? text = some (text, [])

theorem cut_token {text token rest : List Char}
    (found : splitCoordinate? text = some (token, rest)) :
    cut text = ⟨[], (token, (cut rest).lead) :: (cut rest).parts⟩ := by
  cases text with
  | nil => cases found
  | cons c text =>
      rw [cut]
      split
      next token' after found' =>
        rw [found] at found'
        simp only [Option.some.injEq, Prod.mk.injEq] at found'
        rw [← found'.1, ← found'.2]
      next missing =>
        rw [found] at missing
        cases missing

theorem cut_coordinate {token rest : List Char} (coordinate : IsCoordinate token)
    (stops : Stops rest) :
    cut (token ++ rest) = ⟨[], (token, (cut rest).lead) :: (cut rest).parts⟩ := by
  apply cut_token
  rw [splitCoordinate?_stop stops, coordinate]
  rfl

theorem cut_inert {c : Char} (inert : isNumeral c = false) (rest : List Char) :
    cut (c :: rest) = ⟨c :: (cut rest).lead, (cut rest).parts⟩ := by
  rw [cut]
  split
  next token after found =>
    rw [splitCoordinate?_inert inert] at found
    cases found
  next => rfl

/-! ## Written integers -/

theorem splitDigits_all {digits : List Char} (all : digits.all isDigit = true) :
    splitDigits digits = (digits, []) := by
  rw [List.all_eq_true] at all
  rw [splitDigits, takeWhile_of_all all, dropWhile_of_all all]

theorem splitSign_decimalDigits (number : Nat) :
    splitSign (decimalDigits number) = ([], decimalDigits number) := by
  obtain ⟨c, rest, same, digit⟩ := decimalDigits_eq_cons number
  rw [same, splitSign]
  all_goals
    rintro rest' sign
    rw [(List.cons.inj sign).1] at digit
    cases digit

/-- A written integer is one coordinate. -/
theorem isCoordinate_integerText (value : Int) : IsCoordinate (integerText value) := by
  have digits := splitDigits_all (all_isDigit_decimalDigits value.natAbs)
  rw [IsCoordinate, integerText]
  split
  · have sign : splitSign ('-' :: decimalDigits value.natAbs) =
        (['-'], decimalDigits value.natAbs) := rfl
    simp [splitCoordinate?, sign, digits, splitFraction, splitExponent, decimalDigits_ne_nil]
  · simp [splitCoordinate?, splitSign_decimalDigits, digits, splitFraction, splitExponent,
      decimalDigits_ne_nil]

end VectorScene.Points
