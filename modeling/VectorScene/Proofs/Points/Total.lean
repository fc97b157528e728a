import VectorScene.Proofs.Points.Literal
import VectorScene.Proofs.Points.Pattern
import VectorScene.Proofs.Points.Scan

/-!
# Every text is cut and read

The matches of the coordinate pattern are found from left to right.  Nothing of a text is lost, no
digit is left between the matches, and whatever the text is, its coordinates are read pair by pair.
-/

namespace VectorScene.Points

open VectorScene.Text

/-! ## Matches from left to right -/

/-- A text, and the matches of a pattern that are found in it from left to right, with the gaps
around them.  A search goes on behind a match. -/
inductive Finds (pattern : Pattern) : List Char → Cut → Prop where
  | done : Finds pattern [] ⟨[], []⟩
  | skip {c : Char} {rest : List Char} {found : Cut} (none : pattern.first? (c :: rest) = none)
      (later : Finds pattern rest found) : Finds pattern (c :: rest) ⟨c :: found.lead, found.parts⟩
  | take {text token rest : List Char} {found : Cut}
      (first : pattern.first? text = some (token, rest)) (later : Finds pattern rest found) :
      Finds pattern text ⟨[], (token, found.lead) :: found.parts⟩

/-- Cutting a text finds the matches of the coordinate pattern. -/
theorem finds_cut (text : List Char) : Finds .coordinate text (cut text) := by
  fun_induction cut text with
  | case1 => exact .done
  | case2 c rest token after found following ih =>
      exact .take ((Pattern.first?_coordinate _).trans found) ih
  | case3 c rest found following ih => exact .skip ((Pattern.first?_coordinate _).trans found) ih

section

variable {pattern : Pattern} {text token rest gap : List Char} {found : Cut}

theorem Pattern.matches_of_first? (first : pattern.first? text = some (token, rest)) :
    pattern.Matches token ∧ token ++ rest = text :=
  Pattern.mem_ways.1 (List.mem_of_head? first)

theorem Finds.join_eq (finds : Finds pattern text found) : found.join = text := by
  induction finds with
  | done => rfl
  | skip none later ih => exact congrArg (List.cons _) ih
  | @take text token rest found first later ih =>
      obtain ⟨-, whole⟩ := Pattern.matches_of_first? first
      rw [← whole, ← ih, Cut.join, Cut.join, List.flatMap_cons, List.nil_append, List.append_assoc]

/-- Each match is tried first where it is found. -/
theorem Finds.first? (finds : Finds pattern text found)
    {before after : List (List Char × List Char)}
    (split : found.parts = before ++ (token, gap) :: after) :
    pattern.first? (token ++ Cut.join ⟨gap, after⟩) = some (token, Cut.join ⟨gap, after⟩) := by
  induction finds generalizing before with
  | done => exact absurd split.symm (List.append_ne_nil_of_right_ne_nil _ (List.cons_ne_nil _ _))
  | skip none later ih => exact ih split
  | take first later ih =>
      cases before with
      | nil =>
          obtain ⟨same, rfl⟩ := List.cons.inj split
          obtain ⟨rfl, rfl⟩ := Prod.mk.inj same
          have rest := later.join_eq
          obtain ⟨-, whole⟩ := Pattern.matches_of_first? first
          rw [← rest] at whole first
          rw [whole]
          exact first
      | cons part before => exact ih (List.cons.inj split).2

/-- The coordinate that is tried first is the longest one. -/
theorem isLongest_of_first? (first : Pattern.coordinate.first? text = some (token, rest)) :
    IsLongest text token := by
  rw [Pattern.first?_coordinate] at first
  exact (splitCoordinate?_eq_some.1 first).2

/-- No coordinate starts with a character that is skipped, but one starts with each digit. -/
theorem isDigit_of_first? {c : Char} (none : Pattern.coordinate.first? (c :: rest) = none) :
    isDigit c = false := by
  by_contra digit
  rw [Bool.not_eq_false] at digit
  have isDigits : IsDigits [c] := ⟨List.cons_ne_nil c [], List.forall_mem_singleton.2 digit⟩
  have form : CoordinateForm ([] ++ [c] ++ []) := .intro (.inl rfl) (.whole isDigits) .absent
  rw [Pattern.first?_coordinate, splitCoordinate?_eq_none] at none
  exact none [c] form ⟨rest, rfl⟩

theorem Finds.isDigit_gap (finds : Finds .coordinate text found) :
    ∀ gap ∈ found.lead :: found.gaps, ∀ c ∈ gap, isDigit c = false := by
  induction finds with
  | done => exact List.forall_mem_singleton.2 (List.forall_mem_nil _)
  | skip none later ih =>
      rw [List.forall_mem_cons, List.forall_mem_cons]
      rw [List.forall_mem_cons] at ih
      exact ⟨⟨isDigit_of_first? none, ih.1⟩, ih.2⟩
  | take first later ih => exact List.forall_mem_cons.2 ⟨List.forall_mem_nil _, ih⟩

end

/-! ## Coordinates pair by pair -/

section

variable {α : Type} {values : List α}

theorem length_pairs : ∀ values : List α, (pairs values).length = values.length / 2
  | [] => by simp [pairs]
  | [_] => by simp [pairs]
  | _ :: _ :: rest => by
      rw [pairs, List.length_cons, length_pairs rest, List.length_cons, List.length_cons]
      omega

theorem getElem?_pairs : ∀ (values : List α) {k : Nat} {x y : α}, values[2 * k]? = some x →
    values[2 * k + 1]? = some y → (pairs values)[k]? = some (x, y)
  | [], _, _, _, first, _ => by cases first
  | [_], k, _, _, _, second => by
      rw [List.getElem?_cons_succ, List.getElem?_nil] at second
      cases second
  | _ :: _ :: rest, 0, _, _, first, second => by
      cases first
      cases second
      rfl
  | _ :: _ :: rest, k + 1, _, _, first, second => getElem?_pairs rest first second

theorem mem_of_mem_pairs {x y : α} : ∀ values : List α, (x, y) ∈ pairs values →
    x ∈ values ∧ y ∈ values
  | [], member => by cases member
  | [_], member => by cases member
  | first :: second :: rest, member => by
      rcases List.mem_cons.1 member with same | later
      · cases same
        exact ⟨List.mem_cons_self, List.mem_cons_of_mem _ List.mem_cons_self⟩
      · obtain ⟨memberX, memberY⟩ := mem_of_mem_pairs rest later
        exact ⟨List.mem_cons_of_mem _ (List.mem_cons_of_mem _ memberX),
          List.mem_cons_of_mem _ (List.mem_cons_of_mem _ memberY)⟩

end

/-- Points are read when both of their coordinates are. -/
theorem parse_eq_ok_iff {text : List Char} {vertices : List (Number × Number)} :
    parse text = .ok vertices ↔
      List.Forall₂ (fun pair vertex => value pair.1 = .ok vertex.1 ∧ value pair.2 = .ok vertex.2)
        (pairs (cut text).tokens) vertices := by
  have point (pair : List Char × List Char) (vertex : Number × Number) :
      (do
        let numberX ← value pair.1
        let numberY ← value pair.2
        return (numberX, numberY)) = .ok vertex ↔
        value pair.1 = .ok vertex.1 ∧ value pair.2 = .ok vertex.2 := by
    simp only [bind_eq_ok, pure_eq_ok]
    constructor
    · rintro ⟨numberX, readX, numberY, readY, rfl⟩
      exact ⟨readX, readY⟩
    · rintro ⟨readX, readY⟩
      exact ⟨vertex.1, readX, vertex.2, readY, rfl⟩
  rw [parse, mapM_eq_ok]
  simp only [point]

/-- The points of any text are read. -/
theorem exists_parse (text : List Char) : ∃ vertices, parse text = .ok vertices := by
  have form := (scans_iff.2 rfl : Scans text (cut text)).form
  refine exists_mapM_eq_ok ?_
  rintro ⟨x, y⟩ member
  obtain ⟨memberX, memberY⟩ := mem_of_mem_pairs _ member
  obtain ⟨numberX, readX⟩ := (form x memberX).exists_value
  obtain ⟨numberY, readY⟩ := (form y memberY).exists_value
  exact ⟨(numberX, numberY), bind_eq_ok.2 ⟨numberX, readX, bind_eq_ok.2 ⟨numberY, readY, rfl⟩⟩⟩

/-- A coordinate stands for an integer exactly if it is an optional sign and digits, which are not
too many. -/
theorem CoordinateForm.exists_integer_iff {token : List Char} (form : CoordinateForm token) :
    (∃ integer, value token = .ok (.integer integer)) ↔
      ∃ sign digits, IsSign sign ∧ IsDigits digits ∧ digits.length ≤ Number.maxDigits ∧
        token = sign ++ digits := by
  rw [← exists_integer?_iff]
  refine exists_congr fun integer => ?_
  rw [value, Number.ofText?_numerals form.isNumeral]
  cases Number.integer? token with
  | none => cases Number.real? token <;> simp
  | some exact => simp

/-- A text is cut at the matches of the coordinate pattern, found from left to right, and nothing of
it is lost.  Each match is the longest coordinate that the text goes on with, and no digit is left
between the matches.  The text is always read: two coordinates in a row give a point, one that is
left over gives none, and a coordinate is an integer when it is an optional sign and digits. -/
theorem cut_maximal (text : List Char) :
    Finds .coordinate text (cut text) ∧ (cut text).join = text ∧
    (∀ before token gap after, (cut text).parts = before ++ (token, gap) :: after →
      Pattern.coordinate.Matches token ∧
        ∀ other, Pattern.coordinate.Matches other → other <+: token ++ Cut.join ⟨gap, after⟩ →
          other.length ≤ token.length) ∧
    (∀ gap ∈ (cut text).lead :: (cut text).gaps, ∀ c ∈ gap, isDigit c = false) ∧
    (∃ vertices, parse text = .ok vertices ∧
      vertices.length = (cut text).tokens.length / 2 ∧
      ∀ k x y, (cut text).tokens[2 * k]? = some x → (cut text).tokens[2 * k + 1]? = some y →
        ∃ vertex, vertices[k]? = some vertex ∧
          value x = .ok vertex.1 ∧ value y = .ok vertex.2) ∧
    ∀ token ∈ (cut text).tokens,
      (∃ integer, value token = .ok (.integer integer)) ↔
        ∃ sign digits, IsSign sign ∧ IsDigits digits ∧ digits.length ≤ 4300 ∧
          token = sign ++ digits := by
  have finds := finds_cut text
  refine ⟨finds, join_cut text, ?_, finds.isDigit_gap, ?_, ?_⟩
  · intro before token gap after split
    have longest := isLongest_of_first? (finds.first? split)
    simp only [Pattern.matches_coordinate]
    exact ⟨longest.form, longest.longest⟩
  · obtain ⟨vertices, parsed⟩ := exists_parse text
    have read := parse_eq_ok_iff.1 parsed
    refine ⟨vertices, parsed, ?_, ?_⟩
    · rw [← read.length_eq, length_pairs]
    · intro k x y first second
      obtain ⟨inside, same⟩ := List.getElem?_eq_some_iff.1 (getElem?_pairs _ first second)
      have bound : k < vertices.length := read.length_eq ▸ inside
      have point := read.get inside bound
      rw [List.get_eq_getElem, List.get_eq_getElem] at point
      rw [same] at point
      exact ⟨vertices[k], List.getElem?_eq_getElem bound, point⟩
  · intro token member
    exact ((scans_iff.2 rfl : Scans text (cut text)).form token member).exists_integer_iff

-- An exponent without digits is no part of a coordinate, and a second point starts another one.
example : (cut "1e+,0.1.2-.5..5x7e3".toList).tokens =
    ["1", "0.1", ".2", "-.5", ".5", "7e3"].map String.toList := by decide +kernel

end VectorScene.Points
