import VectorScene.Proofs.Text.Digit
import VectorScene.Proofs.Text.Trim
import VectorScene.Number.Literal

/-!
# Written integers

An integer that is written is read as the same integer, whatever its sign and
size, as long as it has no more digits than are written.
-/

namespace VectorScene

open VectorScene.Text

namespace Number

/-! ## Characters of numbers -/

/-- The characters of written numbers that are no names of special values. -/
def isNumeral (c : Char) : Bool :=
  isDigit c || ['+', '-', '.', 'e', 'E'].contains c

theorem isNumeral_of_isDigit {c : Char} (digit : isDigit c = true) : isNumeral c = true := by
  simp [isNumeral, digit]

/-- A numeral is an ASCII character, no white space and no underscore. -/
theorem isNumeral_range {c : Char} (numeral : isNumeral c = true) :
    c.toNat < 128 ∧ 0x20 < c.toNat ∧ c ≠ '_' := by
  simp only [isNumeral, Bool.or_eq_true, isDigit, Bool.and_eq_true, decide_eq_true_eq,
    List.contains_eq_mem, List.mem_cons, List.not_mem_nil, or_false] at numeral
  rcases numeral with ⟨low, high⟩ | rfl | rfl | rfl | rfl | rfl
  · have low' : 48 ≤ c.toNat := low
    have high' : c.toNat ≤ 57 := high
    refine ⟨by omega, by omega, ?_⟩
    rintro rfl
    exact absurd high' (by decide)
  all_goals decide

theorem isBlank_of_isNumeral {c : Char} (numeral : isNumeral c = true) : isBlank c = false := by
  obtain ⟨ascii, visible, -⟩ := isNumeral_range numeral
  simp only [isBlank, Bool.or_eq_false_iff, Bool.and_eq_false_iff, decide_eq_false_iff_not]
  omega

/-- Numerals are trimmed of nothing. -/
theorem trim_numerals {text : List Char} (numerals : ∀ c ∈ text, isNumeral c = true) :
    trim text = text :=
  trimBy_eq_self fun c member => isBlank_of_isNumeral (numerals c member)

/-- A literal of ASCII characters without white space is the text itself. -/
theorem literal_eq_self {text : List Char} (ascii : ∀ c ∈ text, c.toNat < 128)
    (solid : ∀ c ∈ text, isBlank c = false) : literal text = text := by
  have same : text.map toAscii = text := by
    rw [List.map_congr_left (g := id), List.map_id]
    intro c member
    simp [toAscii, ascii c member]
  rw [literal, same]
  apply trimBy_eq_self
  intro c member
  have visible := solid c member
  simp only [isBlank, Bool.or_eq_false_iff, Bool.and_eq_false_iff, decide_eq_false_iff_not]
    at visible
  simp only [isAsciiSpace, Bool.or_eq_false_iff, decide_eq_false_iff_not, Bool.and_eq_false_iff]
  constructor
  · rintro rfl
    exact absurd (solid ' ' member) (by decide)
  · omega

/-- Nothing is removed from a literal without underscores. -/
theorem ungroup_eq_self {text : List Char} (ungrouped : '_' ∉ text) (afterDigit : Bool) :
    ungroup afterDigit text = some text := by
  induction text generalizing afterDigit with
  | nil => rfl
  | cons c rest ih =>
      rw [List.mem_cons, not_or] at ungrouped
      rw [ungroup]
      · rw [ih ungrouped.2, Option.map_some]
      · exact fun same => ungrouped.1 same.symm

/-- A text of ASCII characters without white space and underscores is read as an integer if it
is one, and as a real number otherwise. -/
theorem ofText?_plain {text : List Char} (ascii : ∀ c ∈ text, c.toNat < 128)
    (solid : ∀ c ∈ text, isBlank c = false) (ungrouped : '_' ∉ text) :
    ofText? text = ((integer? text).map .integer).or ((real? text).map .real) := by
  rw [ofText?, literal_eq_self ascii solid, ungroup_eq_self ungrouped, Option.bind_some]

/-- A text of numerals is read as an integer if it is one, and as a real number
otherwise. -/
theorem ofText?_numerals {text : List Char} (numerals : ∀ c ∈ text, isNumeral c = true) :
    ofText? text = ((integer? text).map .integer).or ((real? text).map .real) := by
  apply ofText?_plain
  · exact fun c member => (isNumeral_range (numerals c member)).1
  · exact fun c member => isBlank_of_isNumeral (numerals c member)
  · exact fun member => (isNumeral_range (numerals '_' member)).2.2 rfl

/-! ## Integers -/

theorem isNumeral_of_mem_integerText {value : Int} {c : Char} (member : c ∈ integerText value) :
    isNumeral c = true := by
  rw [integerText] at member
  split at member
  · rcases List.mem_cons.1 member with rfl | digit
    · decide
    · exact isNumeral_of_isDigit (isDigit_of_mem_decimalDigits digit)
  · exact isNumeral_of_isDigit (isDigit_of_mem_decimalDigits member)

/-- Reading the sign and the digits of a number. -/
theorem integer?_digits {negative : Bool} {number : Nat} {text : List Char}
    (split : splitSign text = (negative, decimalDigits number))
    (short : (decimalDigits number).length ≤ maxDigits) :
    integer? text = some (signed negative number) := by
  rw [integer?, split]
  simp [decimalDigits_ne_nil, all_isDigit_decimalDigits, short]

theorem splitSign_decimalDigits (number : Nat) :
    splitSign (decimalDigits number) = (false, decimalDigits number) := by
  obtain ⟨c, rest, same, digit⟩ := decimalDigits_eq_cons number
  rw [same, splitSign]
  all_goals
    rintro rest' sign
    rw [(List.cons.inj sign).1] at digit
    cases digit

/-- A written integer is read as the integer. -/
theorem integer?_integerText {value : Int}
    (short : (decimalDigits value.natAbs).length ≤ maxDigits) :
    integer? (integerText value) = some value := by
  rw [integerText]
  split
  next negative =>
    have split : splitSign ('-' :: decimalDigits value.natAbs) =
        (true, decimalDigits value.natAbs) := rfl
    rw [integer?_digits split short, signed]
    simp only [if_true]
    congr 1
    omega
  next positive =>
    rw [integer?_digits (splitSign_decimalDigits _) short, signed]
    simp only [Bool.false_eq_true, if_false]
    congr 1
    omega

/-- An integer that is written has no more digits than are written. -/
theorem text?_eq_some {value : Int} {text : List Char}
    (written : (Number.integer value).text? = some text) :
    (decimalDigits value.natAbs).length ≤ maxDigits ∧ text = integerText value := by
  rw [text?] at written
  split at written
  next short => exact ⟨short, (Option.some.inj written).symm⟩
  next => cases written

/-- The text of an integer is read as the integer. -/
theorem ofText?_of_text? {value : Int} {text : List Char}
    (written : (Number.integer value).text? = some text) :
    ofText? text = some (.integer value) := by
  obtain ⟨short, rfl⟩ := text?_eq_some written
  rw [ofText?_numerals fun _ => isNumeral_of_mem_integerText, integer?_integerText short]
  rfl

end Number

end VectorScene
