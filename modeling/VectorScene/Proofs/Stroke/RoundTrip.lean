import VectorScene.Proofs.Stroke.First

/-!
# Colors written and read

Writing a color keeps its bits from 8 to 31 and no others.  Reading and writing are inverse
on what is kept, up to the case of the digits.
-/

namespace VectorScene.Stroke

open VectorScene.Text

/-! ## The bits that are kept -/

/-- The bits of the red, green and blue of a color are those from 8 to 31. -/
theorem testBit_rgb (color : Int) (bit : Nat) :
    (rgb color).testBit bit = (decide (bit < 24) && color.testBit (bit + 8)) := by
  cases color with
  | ofNat number =>
      have bits : rgb (.ofNat number) = number / 2 ^ 8 % 2 ^ 24 := by
        rw [rgb, Int.ofNat_eq_natCast]
        omega
      rw [bits, Nat.testBit_mod_two_pow, Nat.testBit_div_two_pow]
      rfl
  | negSucc number =>
      have small : number / 2 ^ 8 % 2 ^ 24 < 2 ^ 24 := Nat.mod_lt _ (by decide)
      have bits : rgb (.negSucc number) = 2 ^ 24 - (number / 2 ^ 8 % 2 ^ 24 + 1) := by
        rw [rgb]
        omega
      rw [bits, Nat.testBit_two_pow_sub_succ small, Nat.testBit_mod_two_pow,
        Nat.testBit_div_two_pow]
      change _ = (decide (bit < 24) && !number.testBit (bit + 8))
      cases decide (bit < 24) <;> simp

theorem rgb_eq_iff {first second : Int} :
    rgb first = rgb second ↔
      ∀ bit, 8 ≤ bit → bit < 32 → first.testBit bit = second.testBit bit := by
  constructor
  · intro same bit low high
    have kept := congrArg (Nat.testBit · (bit - 8)) same
    have below : bit - 8 < 24 := by omega
    simpa [testBit_rgb, below, Nat.sub_add_cancel low] using kept
  · intro agree
    apply Nat.eq_of_testBit_eq
    intro bit
    rw [testBit_rgb, testBit_rgb]
    by_cases below : bit < 24
    · rw [agree (bit + 8) (by omega) (by omega)]
    · simp [below]

theorem written_eq_iff {first second : Int} :
    written first = written second ↔ rgb first = rgb second := by
  constructor
  · intro same
    have digits := congrArg hexadecimalValue (List.cons.inj same).2
    simpa using digits
  · intro same
    rw [written, written, same]

/-! ## Colors that were read -/

section

variable {digits : List Char}

theorem rgb_solidColor {bits : Nat} (small : bits < 2 ^ 24) : rgb (solidColor bits) = bits := by
  rw [rgb, solidColor]
  omega

/-- A color is written with the digits that it was read from, in lower case. -/
theorem written_solidColor (six : SixDigits digits) :
    written (solidColor (hexadecimalValue digits)) = '#' :: digits.map Char.toLower := by
  have some : digits ≠ [] := by
    rintro rfl
    exact absurd six.length (by decide)
  rw [written, rgb_solidColor six.value_lt, ← six.length,
    hexadecimalDigits_hexadecimalValue some six.hex]

theorem kept_solidColor (six : SixDigits digits) :
    kept (solidColor (hexadecimalValue digits)) = solidColor (hexadecimalValue digits) := by
  rw [← solidColor_rgb, rgb_solidColor six.value_lt]

end

/-- All of a color that was read is kept. -/
theorem kept_of_read {style : Option String} {color : Int} (succeeds : read style = .ok color) :
    kept color = color := by
  cases style with
  | none => cases succeeds
  | some text =>
      obtain ⟨digits, found, rfl⟩ := read_eq_ok.1 succeeds
      obtain ⟨position, first⟩ := find?_eq_some.1 found
      exact kept_solidColor first.declares.six

/-- A color is written with six digits in lower case, and its style is read as what is kept of
it.  A color that is read is written with the digits of its declaration, and read again from
what is written.  Colors are written alike when they have the same bits from 8 to 31. -/
theorem written_roundTrip :
    (∀ color : Int, ∃ digits,
      valueWritten (.number (.integer color)) = .ok (String.ofList ('#' :: digits)) ∧
      digits.length = 6 ∧ (∀ c ∈ digits, c ∈ "0123456789abcdef".toList) ∧
      ∃ text, style (.number (.integer color)) = .ok text ∧
        read (some text) = .ok (Int.lor (Int.land (color >>> (8 : Nat)) 0xFFFFFF <<< (8 : Nat)) 0xFF)) ∧
    (∀ text color, read (some text) = .ok color → ∃ position digits,
      IsFirst text.toList position digits ∧ written color = '#' :: digits.map Char.toLower ∧
      read (some ("stroke:" ++ String.ofList (written color))) = .ok color) ∧
    ∀ first second : Int, valueWritten (.number (.integer first)) =
        valueWritten (.number (.integer second)) ↔
      ∀ bit, 8 ≤ bit → bit < 32 → first.testBit bit = second.testBit bit := by
  refine ⟨?_, ?_, ?_⟩
  · intro color
    refine ⟨hexadecimalDigits 6 (rgb color), rfl, (sixDigits_rgb color).length, ?_, _, rfl, ?_⟩
    · exact fun _ => mem_lowerHexDigits
    · exact read_written color
  · intro text color succeeds
    obtain ⟨digits, found, rfl⟩ := read_eq_ok.1 succeeds
    obtain ⟨position, first⟩ := find?_eq_some.1 found
    have six := first.declares.six
    refine ⟨position, digits, first, written_solidColor six, ?_⟩
    rw [read_stroke, kept_solidColor six]
  · intro first second
    rw [← rgb_eq_iff, ← written_eq_iff, valueWritten, valueWritten, Except.ok.injEq,
      String.ofList_inj]

/-- A negative color with more than 32 bits is written like a positive one, and a style with
digits in either case is read and written in lower case. -/
theorem written_roundTrip_mixed :
    valueWritten (.number (.integer (-0x123456789AB))) =
        valueWritten (.number (.integer 0xBA987600)) ∧
      ∃ position digits, IsFirst "fill:none;stroke:#bA9876".toList position digits ∧
        written 0xBA9876FF = '#' :: digits.map Char.toLower ∧
        read (some ("stroke:" ++ String.ofList (written 0xBA9876FF))) = .ok 0xBA9876FF := by
  have bits : ∀ bit < 32, 8 ≤ bit →
      Int.testBit (-0x123456789AB) bit = Int.testBit 0xBA987600 bit := by
    decide
  have succeeds : read (some "fill:none;stroke:#bA9876") = .ok 0xBA9876FF := by decide +kernel
  obtain ⟨-, again, alike⟩ := written_roundTrip
  exact ⟨(alike _ _).2 fun bit low high => bits bit high low, again _ _ succeeds⟩

end VectorScene.Stroke
