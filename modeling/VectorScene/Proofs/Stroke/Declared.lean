import Mathlib.Data.List.TakeWhile
import Mathlib.Data.Nat.Find
import VectorScene.Proofs.Text.Digit
import VectorScene.Stroke

/-!
# Declared colors

What a declaration of a color is, said without the functions that look for one.  The
color of a style is that of the first declaration in it, and no text after that
declaration changes it.
-/

namespace VectorScene.Stroke

open VectorScene.Text

/-- Six hexadecimal digits. -/
structure SixDigits (digits : List Char) : Prop where
  length : digits.length = 6
  hex : ∀ c ∈ digits, isHexDigit c = true

/-- A text that does not go on with a hexadecimal digit. -/
def Ends (rest : List Char) : Prop :=
  ∀ c ∈ rest.head?, isHexDigit c = false

/-- A text starts with a color: blanks, a number sign and six digits, which no seventh
one follows. -/
inductive Colored : List Char → List Char → Prop where
  | intro {blanks digits rest : List Char} (blank : allBlank blanks = true)
      (six : SixDigits digits) (ends : Ends rest) :
      Colored (blanks ++ '#' :: (digits ++ rest)) digits

/-- A text starts with a declaration of a color: the name, blanks, a colon and a
color. -/
inductive Declares : List Char → List Char → Prop where
  | intro {blanks value digits : List Char} (blank : allBlank blanks = true)
      (colored : Colored value digits) :
      Declares ("stroke".toList ++ (blanks ++ ':' :: value)) digits

/-- The first declaration of a color in a text starts at a position. -/
structure IsFirst (text : List Char) (position : Nat) (digits : List Char) : Prop where
  declares : Declares (text.drop position) digits
  first : ∀ earlier < position, ∀ other, ¬Declares (text.drop earlier) other

theorem SixDigits.value_lt {digits : List Char} (six : SixDigits digits) :
    hexadecimalValue digits < 2 ^ 24 := by
  have bits : hexadecimalValue digits < 16 ^ digits.length :=
    valueOfDigits_lt fun c member => hexValue_lt (six.hex c member)
  rw [six.length] at bits
  omega

/-! ## Finding a declaration -/

theorem ends_nil : Ends [] :=
  nofun

theorem Ends.append {rest more : List Char} (ends : Ends rest) (endsMore : Ends more) :
    Ends (rest ++ more) := by
  cases rest with
  | nil => exact endsMore
  | cons c rest => exact ends

theorem Ends.of_append {rest more : List Char} (ends : Ends (rest ++ more)) : Ends rest := by
  cases rest with
  | nil => exact ends_nil
  | cons c rest => exact ends

theorem afterMark?_eq_some {mark : Char} (visible : isBlank mark = false) {text rest : List Char} :
    afterMark? mark text = some rest ↔
      ∃ blanks, allBlank blanks = true ∧ text = blanks ++ mark :: rest := by
  constructor
  · intro found
    have blank : allBlank (text.takeWhile isBlank) = true :=
      List.all_eq_true.2 fun _ member => List.mem_takeWhile_imp member
    have whole : text.takeWhile isBlank ++ text.dropWhile isBlank = text :=
      List.takeWhile_append_dropWhile
    refine ⟨text.takeWhile isBlank, blank, ?_⟩
    rw [afterMark?] at found
    split at found
    next c after dropped =>
      split at found
      next same =>
        cases found
        rw [same] at dropped
        rw [← dropped, whole]
      next => cases found
    next => cases found
  · rintro ⟨blanks, blank, rfl⟩
    rw [afterMark?, List.dropWhile_append_of_pos (List.all_eq_true.1 blank),
      List.dropWhile_cons_of_neg (by simp [visible])]
    simp

theorem digits?_eq_some {text digits : List Char} :
    digits? text = some digits ↔ ∃ rest, SixDigits digits ∧ Ends rest ∧ text = digits ++ rest := by
  constructor
  · intro found
    rw [digits?] at found
    split at found
    next holds =>
      cases found
      simp only [Bool.and_eq_true, decide_eq_true_eq, List.all_eq_true, Bool.not_eq_true',
        Option.any_eq_false] at holds
      obtain ⟨⟨six, hex⟩, ends⟩ := holds
      refine ⟨text.drop 6, ⟨six, hex⟩, ?_, (List.take_append_drop 6 text).symm⟩
      intro c member
      simpa using ends c member
    next => cases found
  · rintro ⟨rest, ⟨six, hex⟩, ends, rfl⟩
    have taken : (digits ++ rest).take 6 = digits := by
      rw [← six]
      exact List.take_left
    have dropped : (digits ++ rest).drop 6 = rest := by
      rw [← six]
      exact List.drop_left
    have stops : rest.head?.any isHexDigit = false := by
      rw [Option.any_eq_false]
      intro c member
      simp [ends c member]
    simp [digits?, taken, dropped, six, List.all_eq_true.2 hex, stops]

theorem color?_eq_some {value digits : List Char} :
    (afterMark? '#' value).bind digits? = some digits ↔ Colored value digits := by
  have visible : isBlank '#' = false := by decide
  simp only [Option.bind_eq_some_iff, afterMark?_eq_some visible, digits?_eq_some]
  constructor
  · rintro ⟨_, ⟨blanks, blank, rfl⟩, rest, six, ends, rfl⟩
    exact .intro blank six ends
  · rintro ⟨blank, six, ends⟩
    exact ⟨_, ⟨_, blank, rfl⟩, _, six, ends, rfl⟩

theorem declared?_eq_some {text digits : List Char} :
    declared? text = some digits ↔ Declares text digits := by
  have visible : isBlank ':' = false := by decide
  have name : property = "stroke".toList := by decide
  rw [declared?]
  constructor
  · intro found
    split at found
    next starts =>
      obtain ⟨rest, rfl⟩ := List.isPrefixOf_iff_prefix.1 starts
      rw [List.drop_left, Option.bind_assoc, Option.bind_eq_some_iff] at found
      obtain ⟨value, marked, colored⟩ := found
      obtain ⟨blanks, blank, rfl⟩ := (afterMark?_eq_some visible).1 marked
      rw [name]
      exact .intro blank (color?_eq_some.1 colored)
    next => cases found
  · rintro @⟨blanks, value, _, blank, colored⟩
    have marked : afterMark? ':' (blanks ++ ':' :: value) = some value :=
      (afterMark?_eq_some visible).2 ⟨blanks, blank, rfl⟩
    have starts : property.isPrefixOf (property ++ (blanks ++ ':' :: value)) = true :=
      List.isPrefixOf_iff_prefix.2 (List.prefix_append _ _)
    rw [← name, if_pos starts, List.drop_left, Option.bind_assoc, marked]
    exact color?_eq_some.2 colored

theorem declared?_eq_none {text : List Char} :
    declared? text = none ↔ ∀ digits, ¬Declares text digits := by
  simp only [Option.eq_none_iff_forall_ne_some, ne_eq, declared?_eq_some]

theorem Colored.six {value digits : List Char} (colored : Colored value digits) :
    SixDigits digits := by
  obtain ⟨-, six, -⟩ := colored
  exact six

theorem Declares.six {text digits : List Char} (declares : Declares text digits) :
    SixDigits digits := by
  obtain ⟨-, colored⟩ := declares
  exact colored.six

/-! ## Searching a text -/

theorem not_declares_nil {digits : List Char} : ¬Declares [] digits := by
  rw [← declared?_eq_some]
  exact nofun

theorem isFirst_zero {text digits : List Char} : IsFirst text 0 digits ↔ Declares text digits :=
  ⟨fun found => found.declares, fun declares => ⟨declares, nofun⟩⟩

theorem isFirst_succ {c : Char} {rest digits : List Char} {position : Nat} :
    IsFirst (c :: rest) (position + 1) digits ↔
      (∀ other, ¬Declares (c :: rest) other) ∧ IsFirst rest position digits := by
  constructor
  · rintro ⟨declares, first⟩
    refine ⟨first 0 (Nat.succ_pos position), declares, ?_⟩
    intro earlier before
    exact first (earlier + 1) (Nat.succ_lt_succ before)
  · rintro ⟨none, declares, first⟩
    refine ⟨declares, ?_⟩
    intro earlier before
    cases earlier with
    | zero => exact none
    | succ earlier => exact first earlier (Nat.lt_of_succ_lt_succ before)

/-- The search finds the first declaration. -/
theorem find?_eq_some {text digits : List Char} :
    find? text = some digits ↔ ∃ position, IsFirst text position digits := by
  induction text with
  | nil =>
      constructor
      · nofun
      · rintro ⟨position, found⟩
        have declares := found.declares
        rw [List.drop_nil] at declares
        exact absurd declares not_declares_nil
  | cons c rest ih =>
      rw [find?, Option.or_eq_some_iff, declared?_eq_some, declared?_eq_none, ih]
      constructor
      · rintro (here | ⟨none, position, later⟩)
        · exact ⟨0, isFirst_zero.2 here⟩
        · exact ⟨position + 1, isFirst_succ.2 ⟨none, later⟩⟩
      · rintro ⟨position, found⟩
        cases position with
        | zero => exact .inl (isFirst_zero.1 found)
        | succ position =>
            obtain ⟨none, later⟩ := isFirst_succ.1 found
            exact .inr ⟨none, position, later⟩

/-- Where there is a declaration there is a first one. -/
theorem exists_isFirst {text : List Char} {position : Nat} {digits : List Char}
    (declares : Declares (text.drop position) digits) :
    ∃ first found, IsFirst text first found := by
  classical
  have some : ∃ position digits, Declares (text.drop position) digits :=
    ⟨position, digits, declares⟩
  obtain ⟨found, least⟩ := Nat.find_spec some
  refine ⟨Nat.find some, found, least, ?_⟩
  intro earlier before other impossible
  exact Nat.find_min some before ⟨other, impossible⟩

end VectorScene.Stroke
