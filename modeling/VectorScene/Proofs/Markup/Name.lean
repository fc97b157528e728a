import VectorScene.Markup.Scanner
import VectorScene.Proofs.Text.Span

/-!
# Names before other text

A name is taken off a text in the same way whatever follows it, as long as no
character of a name and no colon follows directly.
-/

namespace VectorScene.Markup

open VectorScene.Text

/-- A text that does not continue a name. -/
def EndsName (text : List Char) : Prop :=
  ∀ c ∈ text.head?, isNameChar c = false ∧ c ≠ ':'

theorem endsName_cons {c : Char} (outside : isNameChar c = false) (plain : c ≠ ':')
    (rest : List Char) : EndsName (c :: rest) := by
  intro d member
  rw [List.head?_cons, Option.mem_def, Option.some.injEq] at member
  subst d
  exact ⟨outside, plain⟩

theorem isNameStart_of_not_isNameChar {c : Char} (outside : isNameChar c = false) :
    isNameStart c = false := by
  simp only [isNameChar, Bool.or_eq_false_iff] at outside
  exact outside.1.1.1.1

/-- A character that starts a name is none that does not. -/
theorem ne_of_isNameStart {c other : Char} (start : isNameStart c = true)
    (outside : isNameStart other = false) : c ≠ other := by
  rintro rfl
  rw [start] at outside
  cases outside

theorem plainName?_append {rest : List Char} (ends : EndsName rest) (text : List Char) :
    plainName? (text ++ rest) =
      (plainName? text).map fun (name, after) => (name, after ++ rest) := by
  have outside : ∀ c ∈ rest.head?, isNameChar c = false := fun c member => (ends c member).1
  cases text with
  | nil =>
      cases rest with
      | nil => rfl
      | cons c rest =>
          have start := isNameStart_of_not_isNameChar (outside c rfl)
          simp [plainName?, start]
  | cons c text =>
      simp only [plainName?, List.cons_append, takeWhile_append_of_stop outside,
        dropWhile_append_of_stop outside]
      split <;> rfl

theorem name?_append {rest : List Char} (ends : EndsName rest) (text : List Char) :
    name? (text ++ rest) = (name? text).map fun (name, after) => (name, after ++ rest) := by
  rw [name?, name?, plainName?_append ends]
  cases plainName? text with
  | none => rfl
  | some found =>
      obtain ⟨label, after⟩ := found
      cases after with
      | nil =>
          cases rest with
          | nil => rfl
          | cons c rest =>
              have plain := (ends c rfl).2
              simp [plain]
      | cons c after =>
          by_cases colon : c = ':'
          · subst colon
            simp only [Option.map_some, Option.bind_some, List.cons_append,
              plainName?_append ends]
            cases plainName? after <;> rfl
          · simp [colon]

/-! ## Texts that are names -/

/-- A text that is a name as a whole. -/
def IsName (text : List Char) : Prop :=
  name? text = some (text, [])

theorem IsName.append {name rest : List Char} (isName : IsName name) (ends : EndsName rest) :
    name? (name ++ rest) = some (name, rest) := by
  rw [name?_append ends, isName]
  rfl

/-- A name starts with a character that may start a name. -/
theorem IsName.eq_cons {name : List Char} (isName : IsName name) :
    ∃ c rest, name = c :: rest ∧ isNameStart c = true := by
  cases name with
  | nil => cases isName
  | cons c rest =>
      refine ⟨c, rest, rfl, ?_⟩
      cases start : isNameStart c with
      | true => rfl
      | false => simp [IsName, name?, plainName?, start] at isName

theorem isNameChar_of_plainName? {text name rest : List Char}
    (found : plainName? text = some (name, rest)) {c : Char} (member : c ∈ name) :
    isNameChar c = true := by
  cases text with
  | nil => cases found
  | cons first text =>
      rw [plainName?] at found
      split at found
      next start =>
        cases found
        rcases List.mem_cons.1 member with rfl | later
        · simp [isNameChar, start]
        · exact List.all_eq_true.1 List.all_takeWhile c later
      next => cases found

/-- All characters of a name are characters of names but a colon. -/
theorem IsName.isNameChar {name : List Char} (isName : IsName name) {c : Char}
    (member : c ∈ name) : isNameChar c = true ∨ c = ':' := by
  rw [IsName, name?] at isName
  obtain ⟨⟨label, afterLabel⟩, labelled, second⟩ := Option.bind_eq_some_iff.1 isName
  split at second
  next label' afterColon same =>
    obtain ⟨⟨inner, afterInner⟩, found, whole⟩ := Option.map_eq_some_iff.1 second
    cases same
    cases whole
    rcases List.mem_append.1 member with first | rest
    · exact .inl (isNameChar_of_plainName? labelled first)
    · rcases List.mem_cons.1 rest with colon | later
      · exact .inr colon
      · exact .inl (isNameChar_of_plainName? found later)
  next =>
    cases second
    exact .inl (isNameChar_of_plainName? labelled member)

/-- A name without a colon is a name. -/
theorem isName_of_isPlainName {name : List Char} (plain : isPlainName name = true) :
    IsName name := by
  cases name with
  | nil => cases plain
  | cons c rest =>
      rw [isPlainName, Bool.and_eq_true, List.all_eq_true] at plain
      simp [IsName, name?, plainName?, plain.1, takeWhile_of_all plain.2,
        dropWhile_of_all plain.2]

end VectorScene.Markup
