import Mathlib.Algebra.Group.Nat.Defs
import Mathlib.Data.Bool.AllAny
import Mathlib.Data.List.Induction
import VectorScene.Text.Blank
import VectorScene.Text.Digit

/-!
# Printed digits

Printing a natural number in a base and reading the digits are inverse, for the
decimal digits of every number and for hexadecimal digits of a fixed width.
-/

namespace VectorScene.Text

/-- A digit at the end of a number is its last one. -/
theorem valueOfDigits_concat (base : Nat) (value : Char → Nat) (digits : List Char) (c : Char) :
    valueOfDigits base value (digits ++ [c]) = valueOfDigits base value digits * base + value c := by
  simp [valueOfDigits]

/-- Reading the printed digits of a number gives the number, whenever the base
and the reader agree on single digits. -/
theorem valueOfDigits_toDigits {base : Nat} {value : Char → Nat} (large : 1 < base)
    (reads : ∀ digit < base, value (Nat.digitChar digit) = digit) (number : Nat) :
    valueOfDigits base value (Nat.toDigits base number) = number := by
  induction number using Nat.strongRecOn with
  | ind number ih =>
      rw [Nat.toDigits_eq_if large]
      split
      next single =>
        simp [valueOfDigits, reads number single]
      next several =>
        have positive : 0 < number := by omega
        have front := ih (number / base) (Nat.div_lt_self positive large)
        have last := reads (number % base) (Nat.mod_lt number (by omega))
        rw [valueOfDigits_concat, front, last, Nat.mul_comm]
        exact Nat.div_add_mod number base

/-- Digits less than the base write a number less than the base to the power of
their count. -/
theorem valueOfDigits_lt {base : Nat} {value : Char → Nat} {digits : List Char}
    (small : ∀ c ∈ digits, value c < base) :
    valueOfDigits base value digits < base ^ digits.length := by
  have after (start : Nat) : digits.foldl (fun number digit => number * base + value digit) start <
      (start + 1) * base ^ digits.length := by
    induction digits generalizing start with
    | nil => simp
    | cons c rest ih =>
        rw [List.forall_mem_cons] at small
        have front : start * base + value c + 1 ≤ (start + 1) * base := by
          rw [Nat.succ_mul]
          exact Nat.add_lt_add_left small.1 _
        rw [List.foldl_cons, List.length_cons, Nat.pow_succ', ← Nat.mul_assoc]
        exact Nat.lt_of_lt_of_le (ih small.2 _) (Nat.mul_le_mul_right _ front)
  simpa [valueOfDigits] using after 0

/-- Digits in front of others count by the place that they stand at. -/
theorem valueOfDigits_append (base : Nat) (value : Char → Nat) (left right : List Char) :
    valueOfDigits base value (left ++ right) =
      valueOfDigits base value left * base ^ right.length + valueOfDigits base value right := by
  induction right using List.reverseRecOn with
  | nil => simp [valueOfDigits]
  | append_singleton right c ih =>
      rw [← List.append_assoc, valueOfDigits_concat, valueOfDigits_concat, ih, List.length_append,
        List.length_singleton, Nat.pow_succ, Nat.add_mul, Nat.mul_assoc, Nat.add_assoc]

section

variable (base : Nat) {value : Char → Nat} (zero : value '0' = 0) (count : Nat)

include zero

theorem valueOfDigits_zeros : valueOfDigits base value (List.replicate count '0') = 0 := by
  induction count with
  | zero => rfl
  | succ count ih => rw [List.replicate_succ', valueOfDigits_concat, ih, zero, Nat.zero_mul]

/-- Zeros in front of a number do not change it. -/
theorem valueOfDigits_leadingZeros (digits : List Char) :
    valueOfDigits base value (List.replicate count '0' ++ digits) =
      valueOfDigits base value digits := by
  rw [valueOfDigits_append, valueOfDigits_zeros base zero, Nat.zero_mul, Nat.zero_add]

end

/-! ## Decimal digits -/

@[simp] theorem asciiValue_digitChar {digit : Nat} (small : digit < 10) :
    asciiValue (Nat.digitChar digit) = digit :=
  Nat.toNat_digitChar_sub_48_of_lt_ten small

@[simp] theorem decimalValue_decimalDigits (number : Nat) :
    decimalValue (decimalDigits number) = number :=
  valueOfDigits_toDigits (by decide) (fun _ => asciiValue_digitChar) number

theorem decimalDigits_ne_nil (number : Nat) : decimalDigits number ≠ [] :=
  Nat.toDigits_ne_nil

theorem isDigit_of_mem_decimalDigits {number : Nat} {c : Char}
    (member : c ∈ decimalDigits number) : isDigit c = true := by
  have digit : c.isDigit = true :=
    Nat.isDigit_of_mem_toDigits (by decide) (by decide) member
  simpa [isDigit, Char.isDigit, Char.le_def] using digit

/-- Printed digits start with a digit. -/
theorem decimalDigits_eq_cons (number : Nat) :
    ∃ c rest, decimalDigits number = c :: rest ∧ isDigit c = true := by
  cases digits : decimalDigits number with
  | nil => exact absurd digits (decimalDigits_ne_nil number)
  | cons c rest =>
      have member : c ∈ decimalDigits number := by
        rw [digits]
        exact List.mem_cons_self
      exact ⟨c, rest, rfl, isDigit_of_mem_decimalDigits member⟩

theorem all_isDigit_decimalDigits (number : Nat) :
    (decimalDigits number).all isDigit = true := by
  rw [List.all_eq_true]
  exact fun _ member => isDigit_of_mem_decimalDigits member

theorem decimalValue_leadingZeros (count : Nat) (digits : List Char) :
    decimalValue (List.replicate count '0' ++ digits) = decimalValue digits :=
  valueOfDigits_leadingZeros 10 rfl count digits

theorem decimalValue_trailingZeros (digits : List Char) (count : Nat) :
    decimalValue (digits ++ List.replicate count '0') = decimalValue digits * 10 ^ count := by
  rw [decimalValue, valueOfDigits_append, valueOfDigits_zeros 10 rfl, List.length_replicate,
    Nat.add_zero]
  rfl

theorem lt_pow_length_decimalDigits (number : Nat) :
    number < 10 ^ (decimalDigits number).length :=
  (Nat.length_toDigits_le_iff (by decide)
    (List.length_pos_iff.2 (decimalDigits_ne_nil number))).1 (Nat.le_refl _)

theorem pow_length_decimalDigits_le {number : Nat} (positive : 0 < number) :
    10 ^ ((decimalDigits number).length - 1) ≤ number := by
  by_contra less
  rcases Nat.eq_zero_or_pos ((decimalDigits number).length - 1) with none | some
  · rw [none] at less
    omega
  · have short : (decimalDigits number).length ≤ (decimalDigits number).length - 1 :=
      (Nat.length_toDigits_le_iff (by decide) some).2 (Nat.lt_of_not_le less)
    omega

/-! ## Hexadecimal digits -/

/-- The hexadecimal digits one by one. -/
def hexDigits : List Char :=
  "0123456789abcdefABCDEF".toList

theorem mem_hexDigits {c : Char} (digit : isHexDigit c = true) : c ∈ hexDigits := by
  have small : c.toNat < 103 := by
    simp only [isHexDigit, isDigit, Bool.or_eq_true, Bool.and_eq_true, decide_eq_true_eq,
      Char.le_def, UInt32.le_iff_toNat_le, Char.reduceVal, UInt32.reduceToNat] at digit
    rw [Char.toNat]
    omega
  have all : ∀ code < 103, isHexDigit (Char.ofNat code) = true → Char.ofNat code ∈ hexDigits := by
    decide
  have named := all c.toNat small
  rw [Char.ofNat_toNat] at named
  exact named digit

theorem hexValue_digitChar {digit : Nat} (small : digit < 16) :
    hexValue (Nat.digitChar digit) = digit := by
  revert digit
  decide

/-- A property of hexadecimal digits is checked on them one by one. -/
theorem of_isHexDigit {property : Char → Prop} [DecidablePred property]
    (all : hexDigits.all (property ·) = true) {c : Char} (digit : isHexDigit c = true) :
    property c :=
  List.all_iff_forall_prop.1 all c (mem_hexDigits digit)

theorem hexValue_lt {c : Char} (digit : isHexDigit c = true) : hexValue c < 16 := by
  have all : hexDigits.all (hexValue · < 16) = true := by decide
  exact of_isHexDigit all digit

theorem isBlank_of_isHexDigit {c : Char} (digit : isHexDigit c = true) : isBlank c = false := by
  have all : hexDigits.all (isBlank · = false) = true := by decide
  exact of_isHexDigit all digit

/-- The hexadecimal digits that are written. -/
def lowerHexDigits : List Char :=
  "0123456789abcdef".toList

theorem mem_lowerHexDigits_of_mem_toDigits {number : Nat} {c : Char}
    (member : c ∈ Nat.toDigits 16 number) : c ∈ lowerHexDigits := by
  have single : ∀ digit < 16, Nat.digitChar digit ∈ lowerHexDigits := by decide
  induction number using Nat.strongRecOn with
  | ind number ih =>
      rw [Nat.toDigits_eq_if (by decide)] at member
      split at member
      next small =>
        rw [List.mem_singleton] at member
        rw [member]
        exact single number small
      next several =>
        rcases List.mem_append.1 member with front | last
        · exact ih (number / 16) (by omega) front
        · rw [List.mem_singleton] at last
          rw [last]
          exact single (number % 16) (Nat.mod_lt number (by decide))

/-- Hexadecimal digits have exactly the width when the number fits it. -/
theorem length_hexadecimalDigits {width number : Nat} (positive : 0 < width)
    (fits : number < 16 ^ width) : (hexadecimalDigits width number).length = width := by
  have short := (Nat.length_toDigits_le_iff (by decide) positive).2 fits
  simp only [hexadecimalDigits, List.length_append, List.length_replicate]
  omega

theorem mem_lowerHexDigits {width number : Nat} {c : Char}
    (member : c ∈ hexadecimalDigits width number) : c ∈ lowerHexDigits := by
  rcases List.mem_append.1 member with zero | digit
  · rw [(List.mem_replicate.1 zero).2]
    decide
  · exact mem_lowerHexDigits_of_mem_toDigits digit

theorem isHexDigit_of_mem_hexadecimalDigits {width number : Nat} {c : Char}
    (member : c ∈ hexadecimalDigits width number) : isHexDigit c = true := by
  have all : lowerHexDigits.all isHexDigit = true := by decide
  exact List.all_eq_true.1 all c (mem_lowerHexDigits member)

@[simp] theorem hexadecimalValue_hexadecimalDigits (width number : Nat) :
    hexadecimalValue (hexadecimalDigits width number) = number := by
  rw [hexadecimalDigits, hexadecimalValue, valueOfDigits_leadingZeros 16 rfl]
  exact valueOfDigits_toDigits (by decide) (fun _ => hexValue_digitChar) number

/-- One more digit is written after those of the number without it. -/
theorem hexadecimalDigits_succ (width number : Nat) :
    hexadecimalDigits (width + 2) number =
      hexadecimalDigits (width + 1) (number / 16) ++ [Nat.digitChar (number % 16)] := by
  rw [hexadecimalDigits, Nat.toDigits_eq_if (by decide)]
  split
  next single =>
    have zero : Nat.toDigits 16 0 = ['0'] := rfl
    rw [hexadecimalDigits, Nat.div_eq_of_lt single, Nat.mod_eq_of_lt single, zero]
    simp [List.replicate_succ']
  next several => simp [hexadecimalDigits]

theorem digitChar_hexValue {c : Char} (digit : isHexDigit c = true) :
    Nat.digitChar (hexValue c) = c.toLower := by
  have all : hexDigits.all (fun c => Nat.digitChar (hexValue c) = c.toLower) = true := by decide
  exact of_isHexDigit all digit

/-- A number is written with the digits that it was read from, in lower case. -/
theorem hexadecimalDigits_hexadecimalValue {digits : List Char} (some : digits ≠ [])
    (hex : ∀ c ∈ digits, isHexDigit c = true) :
    hexadecimalDigits digits.length (hexadecimalValue digits) = digits.map Char.toLower := by
  induction digits using List.reverseRecOn with
  | nil => exact absurd rfl some
  | append_singleton front c ih =>
      rw [List.forall_mem_append, List.forall_mem_singleton] at hex
      obtain ⟨hexFront, hexLast⟩ := hex
      have small := hexValue_lt hexLast
      have last := digitChar_hexValue hexLast
      cases front with
      | nil =>
          have single : Nat.toDigits 16 (hexValue c) = [Nat.digitChar (hexValue c)] :=
            Nat.toDigits_of_lt_base small
          simp [hexadecimalValue, valueOfDigits, hexadecimalDigits, single, last]
      | cons d front =>
          have before := ih (List.cons_ne_nil d front) hexFront
          have quotient : (hexadecimalValue (d :: front) * 16 + hexValue c) / 16 =
              hexadecimalValue (d :: front) := by omega
          have remainder : (hexadecimalValue (d :: front) * 16 + hexValue c) % 16 =
              hexValue c := by omega
          rw [List.length_cons] at before
          rw [hexadecimalValue, valueOfDigits_concat, ← hexadecimalValue, List.length_append,
            List.length_singleton, List.length_cons, hexadecimalDigits_succ, quotient, remainder,
            before, last, List.map_append, List.map_singleton]

end VectorScene.Text
