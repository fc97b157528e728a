import VectorScene.Proofs.Stroke

/-!
# The color of a style

The color of a style is that of the first declaration in it.  Declarations do not
overlap, so a text after the first one neither hides it nor makes an earlier one.
-/

namespace VectorScene.Stroke

open VectorScene.Text

/-! ## The characters of a declaration -/

/-- Whether a declaration may go on with a character after its first one. -/
def continues (c : Char) : Bool :=
  "troke:#".toList.contains c || isBlank c || isHexDigit c

theorem forall_continues_blanks {blanks : List Char} (blank : allBlank blanks = true) :
    ∀ c ∈ blanks, continues c = true := by
  intro c member
  have filled := List.all_eq_true.1 blank c member
  simp [continues, filled]

theorem forall_continues_digits {digits : List Char} (six : SixDigits digits) :
    ∀ c ∈ digits, continues c = true := by
  intro c member
  simp [continues, six.hex c member]

theorem isHexDigit_of_not_continues {c : Char} (stops : continues c = false) :
    isHexDigit c = false := by
  simp only [continues, Bool.or_eq_false_iff] at stops
  exact stops.2

/-- A declaration is one of its first character and characters that it goes on with, whatever
follows it. -/
theorem Declares.exists_tail {text digits : List Char} (declares : Declares text digits) :
    ∃ tail rest, text = 's' :: (tail ++ rest) ∧ (∀ c ∈ tail, continues c = true) ∧ Ends rest ∧
      ∀ other, Ends other → Declares ('s' :: (tail ++ other)) digits := by
  obtain @⟨blanks, _, _, blank, @⟨inner, _, rest, blankInner, six, ends⟩⟩ := declares
  have name : ∀ c ∈ "troke".toList, continues c = true := List.all_eq_true.1 (by decide)
  have colon : continues ':' = true := by decide
  have mark : continues '#' = true := by decide
  refine ⟨"troke".toList ++ (blanks ++ ':' :: (inner ++ '#' :: digits)), rest, ?_, ?_, ends, ?_⟩
  · simp
  · have value := List.forall_mem_append.2 ⟨forall_continues_blanks blankInner,
      List.forall_mem_cons.2 ⟨mark, forall_continues_digits six⟩⟩
    exact List.forall_mem_append.2 ⟨name, List.forall_mem_append.2
      ⟨forall_continues_blanks blank, List.forall_mem_cons.2 ⟨colon, value⟩⟩⟩
  · intro other endsOther
    have same := Declares.intro blank (.intro blankInner six endsOther)
    simpa using same

section

variable {text digits : List Char} {c : Char}

/-- A declaration goes on where it started, up to a character that it cannot go on with. -/
theorem declares_append_cons (some : text ≠ []) (stops : continues c = false)
    (rest : List Char) : Declares (text ++ c :: rest) digits ↔ Declares text digits := by
  have stopsEnd : Ends (c :: rest) := by
    rintro _ ⟨⟩
    exact isHexDigit_of_not_continues stops
  constructor
  · intro declares
    obtain ⟨tail, after, whole, inside, ends, again⟩ := declares.exists_tail
    obtain ⟨first, front, rfl⟩ := List.exists_cons_of_ne_nil some
    rw [List.cons_append, List.cons.injEq] at whole
    obtain ⟨rfl, whole⟩ := whole
    rcases List.append_eq_append_iff.1 whole with ⟨part, rfl, remains⟩ | ⟨part, rfl, rfl⟩
    · cases part with
      | nil =>
          have same := again [] ends_nil
          simpa using same
      | cons d part =>
          obtain ⟨rfl, -⟩ := List.cons.inj remains
          have goesOn := inside c (by simp)
          rw [stops] at goesOn
          cases goesOn
    · exact again part ends.of_append
  · intro declares
    obtain ⟨tail, after, rfl, -, ends, again⟩ := declares.exists_tail
    have longer := again _ (ends.append stopsEnd)
    simpa using longer

theorem declared?_append_cons (some : text ≠ []) (stops : continues c = false)
    (rest : List Char) : declared? (text ++ c :: rest) = declared? text := by
  apply Option.ext
  intro digits
  rw [declared?_eq_some, declared?_eq_some, declares_append_cons some stops]

end

/-! ## Text after the first declaration -/

/-- No text after the first declaration changes what is found, as long as its first digit is
no seventh one. -/
theorem find?_append {text digits more : List Char} (found : find? text = some digits)
    (ends : Ends more) : find? (text ++ more) = some digits := by
  induction text with
  | nil => cases found
  | cons c rest ih =>
      rw [find?, Option.or_eq_some_iff] at found
      rw [List.cons_append, find?, Option.or_eq_some_iff, ← List.cons_append]
      rcases found with here | ⟨none, later⟩
      · obtain ⟨tail, after, whole, -, endsAfter, again⟩ := (declared?_eq_some.1 here).exists_tail
        have longer := again _ (endsAfter.append ends)
        rw [← List.append_assoc, ← List.cons_append, ← whole] at longer
        exact .inl (declared?_eq_some.2 longer)
      · -- The first character of the later declaration is none that an earlier one goes on with.
        obtain ⟨position, first⟩ := find?_eq_some.1 later
        obtain ⟨tail, after, whole, -⟩ := first.declares.exists_tail
        have split : c :: rest = c :: rest.take position ++ 's' :: (tail ++ after) := by
          rw [← whole, List.cons_append, List.take_append_drop]
        have stops : continues 's' = false := by decide
        have same : declared? (c :: rest ++ more) = declared? (c :: rest) := by
          rw [split, List.append_assoc, List.cons_append (a := 's'),
            declared?_append_cons (List.cons_ne_nil _ _) stops,
            declared?_append_cons (List.cons_ne_nil _ _) stops]
        exact .inr ⟨same.trans none, ih later⟩

/-! ## Reading -/

theorem read_eq_error {text : String} :
    read (some text) = .error (.colorNotFound (some text)) ↔ find? text.toList = none := by
  rw [read, Option.bind_some]
  cases find? text.toList with
  | none => simp
  | some digits => simp

theorem find?_eq_none {text : List Char} :
    find? text = none ↔ ∀ position digits, ¬Declares (text.drop position) digits := by
  constructor
  · intro none position digits declares
    obtain ⟨first, found, isFirst⟩ := exists_isFirst declares
    rw [find?_eq_some.2 ⟨first, isFirst⟩] at none
    cases none
  · intro none
    rw [Option.eq_none_iff_forall_ne_some]
    intro digits found
    obtain ⟨position, first⟩ := find?_eq_some.1 found
    exact none position digits first.declares

/-- The color of a style is that of the first declaration in it, and a style without one has
no color.  A color that is read is opaque and has 32 bits, and stays the same when a text
that does not start with a hexadecimal digit is appended. -/
theorem read_first (text : String) :
    (∀ color, read (some text) = .ok color ↔ ∃ position digits,
      IsFirst text.toList position digits ∧
        color = ((hexadecimalValue digits <<< 8 ||| 0xFF : Nat) : Int)) ∧
    ((∃ color, read (some text) = .ok color) ↔
      ∃ position digits, Declares (text.toList.drop position) digits) ∧
    (read (some text) = .error (.colorNotFound (some text)) ↔
      ¬∃ position digits, Declares (text.toList.drop position) digits) ∧
    ∀ color, read (some text) = .ok color → 0xFF ≤ color ∧ color < 2 ^ 32 ∧
      ∀ more : String, Ends more.toList → read (some (text ++ more)) = .ok color := by
  have colored (color : Int) : read (some text) = .ok color ↔ ∃ position digits,
      IsFirst text.toList position digits ∧
        color = ((hexadecimalValue digits <<< 8 ||| 0xFF : Nat) : Int) := by
    simp only [read_eq_ok, find?_eq_some, solidColor_eq]
    exact ⟨fun ⟨digits, ⟨position, first⟩, same⟩ => ⟨position, digits, first, same⟩,
      fun ⟨position, digits, first, same⟩ => ⟨digits, ⟨position, first⟩, same⟩⟩
  refine ⟨colored, ?_, ?_, ?_⟩
  · constructor
    · rintro ⟨color, succeeds⟩
      obtain ⟨position, digits, first, -⟩ := (colored color).1 succeeds
      exact ⟨position, digits, first.declares⟩
    · rintro ⟨_, _, declares⟩
      obtain ⟨position, digits, first⟩ := exists_isFirst declares
      exact ⟨_, (colored _).2 ⟨position, digits, first, rfl⟩⟩
  · rw [read_eq_error, find?_eq_none]
    simp
  · intro color succeeds
    obtain ⟨digits, found, rfl⟩ := read_eq_ok.1 succeeds
    obtain ⟨position, first⟩ := find?_eq_some.1 found
    obtain ⟨alpha, bits⟩ := solidColor_bounds first.declares.six
    refine ⟨alpha, bits, ?_⟩
    intro more ends
    rw [read_eq_ok, String.toList_append]
    exact ⟨digits, find?_append found ends, rfl⟩

/-- Seven digits after a first name, then a name without a colon, then a declaration with
blanks of several kinds. -/
def crowdedStyle : String :=
  "stroke:#1234567;strokestroke\u2003:\t#0aF9c0"

theorem read_first_crowded :
    read (some crowdedStyle) = .ok 0x0AF9C0FF ∧
      read (some (crowdedStyle ++ ";stroke:#993399")) = .ok 0x0AF9C0FF := by
  have read : read (some crowdedStyle) = .ok 0x0AF9C0FF := by decide +kernel
  have ends : Ends ";stroke:#993399".toList := by
    rintro _ ⟨⟩
    decide
  obtain ⟨-, -, kept⟩ := (read_first crowdedStyle).2.2.2 _ read
  exact ⟨read, kept _ ends⟩

end VectorScene.Stroke
