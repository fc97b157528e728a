import VectorScene.Proofs.Stroke.First
import VectorScene.Proofs.Text.Span
import VectorScene.Proofs.Text.Trim

/-!
# Styles of declarations

A style is a list of declarations with semicolons between them.  Its color is that of the
first declaration that shows one.  The declaration of the stroke shows its color, and so do
others: one whose name only ends in `stroke`, and one whose value holds a declaration of a
color.
-/

namespace VectorScene.Stroke

open VectorScene.Text

/-- A declaration of a style: a name, which ends at the first colon, and a value. -/
structure Declaration where
  name : String
  value : String
  plain : ':' ∉ name.toList

/-- The text of a declaration. -/
def Declaration.text (declaration : Declaration) : String :=
  declaration.name ++ ":" ++ declaration.value

/-- The style of some declarations. -/
def styleOf (declarations : List Declaration) : String :=
  String.intercalate ";" (declarations.map Declaration.text)

/-- A declaration of the stroke. -/
def Declaration.IsStroke (declaration : Declaration) : Prop :=
  trim declaration.name.toList = "stroke".toList

/-- A name that ends in `stroke`, apart from blanks. -/
def EndsInStroke (name : List Char) : Prop :=
  ∃ front blanks, allBlank blanks = true ∧ name = front ++ ("stroke".toList ++ blanks)

/-- A declaration shows the digits of a color: those at the start of its value when its name
ends in `stroke`, and otherwise those of the first declaration of a color in its value. -/
inductive Declaration.Shows (declaration : Declaration) : List Char → Prop where
  | named {digits : List Char} (named : EndsInStroke declaration.name.toList)
      (colored : Colored declaration.value.toList digits) : Shows declaration digits
  | inner {position : Nat} {digits : List Char}
      (unnamed : EndsInStroke declaration.name.toList →
        ∀ other, ¬Colored declaration.value.toList other)
      (first : IsFirst declaration.value.toList position digits) : Shows declaration digits

/-! ## One declaration -/

/-- A name that is the stroke's as a whole, apart from blanks after it. -/
def IsStrokeName (name : List Char) : Prop :=
  ∃ blanks, allBlank blanks = true ∧ name = "stroke".toList ++ blanks

section

variable {name value digits : List Char}

/-- A declaration starts with one of a color when its name is the stroke's and its value
starts with the color. -/
theorem declares_name (plain : ':' ∉ name) :
    Declares (name ++ ':' :: value) digits ↔ IsStrokeName name ∧ Colored value digits := by
  constructor
  · generalize whole : name ++ ':' :: value = text
    rintro @⟨blanks, rest, _, blank, colored⟩
    have before : ':' ∉ "stroke".toList ++ blanks :=
      List.not_mem_append (by decide) (not_mem_blanks blank (by decide))
    rw [← List.append_assoc] at whole
    obtain ⟨rfl, rfl⟩ := eq_of_append_mark_eq plain before whole
    exact ⟨⟨blanks, blank, rfl⟩, colored⟩
  · rintro ⟨⟨blanks, blank, rfl⟩, colored⟩
    rw [List.append_assoc]
    exact .intro blank colored

theorem not_endsInStroke_nil : ¬EndsInStroke [] := by
  rintro ⟨front, blanks, -, same⟩
  simp at same

theorem endsInStroke_cons {c : Char} :
    EndsInStroke (c :: name) ↔ IsStrokeName (c :: name) ∨ EndsInStroke name := by
  constructor
  · rintro ⟨front, blanks, blank, same⟩
    cases front with
    | nil => exact .inl ⟨blanks, blank, same⟩
    | cons d front => exact .inr ⟨front, blanks, blank, (List.cons.inj same).2⟩
  · rintro (⟨blanks, blank, same⟩ | ⟨front, blanks, blank, same⟩)
    · exact ⟨[], blanks, blank, same⟩
    · exact ⟨c :: front, blanks, blank, congrArg (c :: ·) same⟩

/-- The name of the stroke does not end in itself again. -/
theorem IsStrokeName.not_endsInStroke {c : Char} (stroke : IsStrokeName (c :: name)) :
    ¬EndsInStroke name := by
  rintro ⟨front, more, -, rfl⟩
  obtain ⟨blanks, blank, same⟩ := stroke
  have rest : front ++ ("stroke".toList ++ more) = "troke".toList ++ blanks :=
    (List.cons.inj same).2
  have first : 's' ∈ "troke".toList ++ blanks := by
    rw [← rest]
    simp
  exact absurd first (List.not_mem_append (by decide) (not_mem_blanks blank (by decide)))

/-- The color of a declaration is at the start of its value when its name ends in `stroke`,
and otherwise declared in its value. -/
theorem find?_named (plain : ':' ∉ name) :
    find? (name ++ ':' :: value) = some digits ↔
      EndsInStroke name ∧ Colored value digits ∨
        (EndsInStroke name → ∀ other, ¬Colored value other) ∧ find? value = some digits := by
  induction name with
  | nil =>
      have none : declared? (':' :: value) = none := rfl
      simp [find?, none, not_endsInStroke_nil]
  | cons c name ih =>
      have later := ih (List.not_mem_of_not_mem_cons plain)
      rw [List.cons_append, find?, Option.or_eq_some_iff, ← List.cons_append, declared?_eq_some,
        declared?_eq_none]
      simp only [declares_name plain, later, endsInStroke_cons]
      by_cases stroke : IsStrokeName (c :: name)
      · simp [stroke, stroke.not_endsInStroke]
      · simp [stroke]

end

/-- The digits of the color that is found in a declaration. -/
def Declaration.shown? (declaration : Declaration) : Option (List Char) :=
  find? declaration.text.toList

theorem Declaration.shown?_eq_some {declaration : Declaration} {digits : List Char} :
    declaration.shown? = some digits ↔ declaration.Shows digits := by
  have text : declaration.text.toList =
      declaration.name.toList ++ ':' :: declaration.value.toList := by
    simp [Declaration.text]
  rw [Declaration.shown?, text, find?_named declaration.plain, find?_eq_some]
  constructor
  · rintro (⟨named, colored⟩ | ⟨unnamed, position, first⟩)
    · exact .named named colored
    · exact .inner unnamed first
  · rintro (⟨named, colored⟩ | ⟨unnamed, first⟩)
    · exact .inl ⟨named, colored⟩
    · exact .inr ⟨unnamed, _, first⟩

/-- The declaration of the stroke shows the color that is its value. -/
theorem Declaration.IsStroke.shows {declaration : Declaration} (stroke : declaration.IsStroke)
    {digits : List Char} (value : trim declaration.value.toList = '#' :: digits)
    (six : SixDigits digits) : declaration.Shows digits := by
  obtain ⟨front, blanks, -, blank, name⟩ := exists_trim declaration.name.toList
  obtain ⟨left, right, blankLeft, blankRight, whole⟩ := exists_trim declaration.value.toList
  rw [stroke] at name
  rw [value] at whole
  have ends : Ends right := by
    intro c member
    rw [← Bool.not_eq_true]
    intro digit
    exact not_mem_blanks blankRight (isBlank_of_isHexDigit digit) (List.mem_of_mem_head? member)
  refine .named ⟨front, blanks, blank, name⟩ ?_
  rw [whole]
  exact .intro blankLeft six ends

theorem Declaration.shown?_eq_none {declaration : Declaration} :
    declaration.shown? = none ↔ ∀ digits, ¬declaration.Shows digits := by
  simp only [Option.eq_none_iff_forall_ne_some, ne_eq, Declaration.shown?_eq_some]

/-! ## All declarations -/

/-- No declaration of a color goes on over a semicolon. -/
theorem find?_semicolon (text rest : List Char) :
    find? (text ++ ';' :: rest) = (find? text).or (find? rest) := by
  induction text with
  | nil => rfl
  | cons c text ih =>
      have stops : continues ';' = false := by decide
      rw [List.cons_append, find?, ih, find?, ← List.cons_append,
        declared?_append_cons (List.cons_ne_nil c text) stops, Option.or_assoc]

theorem find?_intercalate (parts : List (List Char)) :
    find? ([';'].intercalate parts) = parts.findSome? find? := by
  induction parts with
  | nil => rfl
  | cons part parts ih =>
      have first : (part :: parts).findSome? find? = (find? part).or (parts.findSome? find?) := by
        rw [List.findSome?_cons]
        cases find? part <;> rfl
      cases parts with
      | nil => rw [List.intercalate_singleton, first, List.findSome?_nil, Option.or_none]
      | cons next parts =>
          rw [List.intercalate_cons_cons, List.append_assoc, List.singleton_append,
            find?_semicolon, ih, first]

theorem find?_styleOf (declarations : List Declaration) :
    find? (styleOf declarations).toList = declarations.findSome? Declaration.shown? := by
  rw [styleOf, String.toList_intercalate, List.map_map]
  exact (find?_intercalate _).trans List.findSome?_map

/-- A declaration shows the digits of a color, and none before it shows any. -/
def FirstShown (declarations : List Declaration) (digits : List Char) : Prop :=
  ∃ front shown back, declarations = front ++ shown :: back ∧
    (∀ earlier ∈ front, ∀ other, ¬earlier.Shows other) ∧ shown.Shows digits

theorem findSome?_shown? {declarations : List Declaration} {digits : List Char} :
    declarations.findSome? Declaration.shown? = some digits ↔ FirstShown declarations digits := by
  simp only [List.findSome?_eq_some_iff, Declaration.shown?_eq_some, Declaration.shown?_eq_none,
    FirstShown, and_comm (a := Declaration.Shows _ _)]

theorem solidColor_injective {first second : Nat} :
    solidColor first = solidColor second ↔ first = second := by
  rw [solidColor, solidColor]
  omega

/-- The color of a style is what the first of its declarations shows that shows a color, and a
style has none when no declaration shows one.  The color of the stroke is read unless a
declaration before it shows another one; the declarations after it do not matter. -/
theorem read_declarations (declarations : List Declaration) :
    (∀ color, read (some (styleOf declarations)) = .ok color ↔ ∃ digits,
      FirstShown declarations digits ∧ color = solidColor (hexadecimalValue digits)) ∧
    (read (some (styleOf declarations)) = .error (.colorNotFound (some (styleOf declarations))) ↔
      ∀ declaration ∈ declarations, ∀ digits, ¬declaration.Shows digits) ∧
    ∀ before stroke after digits, declarations = before ++ stroke :: after → stroke.IsStroke →
      trim stroke.value.toList = '#' :: digits → SixDigits digits →
      (read (some (styleOf declarations)) = .ok (solidColor (hexadecimalValue digits)) ↔
        ∀ other, FirstShown before other → hexadecimalValue other = hexadecimalValue digits) := by
  refine ⟨?_, ?_, ?_⟩
  · intro color
    simp only [read_eq_ok, find?_styleOf, findSome?_shown?]
  · rw [read_eq_error, find?_styleOf, List.findSome?_eq_none_iff]
    simp only [Declaration.shown?_eq_none]
  · rintro before stroke after digits rfl isStroke value six
    have own : stroke.shown? = some digits :=
      Declaration.shown?_eq_some.2 (isStroke.shows value six)
    have found : find? (styleOf (before ++ stroke :: after)).toList =
        (before.findSome? Declaration.shown?).or (some digits) := by
      rw [find?_styleOf, List.findSome?_append, List.findSome?_cons, own]
    simp only [read_eq_ok, found, ← findSome?_shown?, solidColor_injective]
    cases before.findSome? Declaration.shown? with
    | none => simp
    | some other => simp [eq_comm]

/-- The second declaration is that of the stroke. -/
def strokeDeclarations : List Declaration :=
  [⟨"fill", "none", by decide⟩, ⟨" stroke\t", " #993399 ", by decide⟩,
    ⟨"text-stroke", "#112233", by decide⟩]

/-- The color of the stroke is read where it comes first, and missed where another name that
ends in `stroke` does. -/
theorem read_declarations_stroke :
    read (some (styleOf strokeDeclarations)) = .ok 0x993399FF ∧
      read (some (styleOf strokeDeclarations.reverse)) ≠ .ok 0x993399FF := by
  have six : SixDigits "993399".toList := ⟨rfl, List.all_eq_true.1 (by decide)⟩
  have value : trim " #993399 ".toList = '#' :: "993399".toList := by decide
  have name : trim " stroke\t".toList = "stroke".toList := by decide
  obtain ⟨-, -, straight⟩ := read_declarations strokeDeclarations
  obtain ⟨-, -, reversed⟩ := read_declarations strokeDeclarations.reverse
  have first := straight [⟨"fill", "none", by decide⟩] _ _ _ rfl name value six
  have last := reversed [⟨"text-stroke", "#112233", by decide⟩] _ _ _ rfl name value six
  have color : solidColor (hexadecimalValue "993399".toList) = 0x993399FF := by decide
  rw [color] at first last
  rw [first, ne_eq, last]
  simp only [← findSome?_shown?]
  constructor
  · intro other shown
    have none : [(⟨"fill", "none", by decide⟩ : Declaration)].findSome? Declaration.shown? = none := by
      decide
    rw [none] at shown
    cases shown
  · intro same
    have equal := same "112233".toList (by decide)
    exact absurd equal (by decide)

end VectorScene.Stroke
