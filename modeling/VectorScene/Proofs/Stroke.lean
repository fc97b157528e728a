import Mathlib.Data.Int.Bitwise
import VectorScene.Proofs.Stroke.Declared

/-!
# Written strokes

A document keeps the bits from 8 to 31 of a color.  The style that a shape is
written with is read as a fully opaque color of these bits.  Every color that is read
fits 32 bits.
-/

namespace VectorScene.Stroke

open VectorScene.Text

/-- What is kept of a color of any size and sign. -/
def kept (color : Int) : Int :=
  Int.lor (Int.land (color >>> (8 : Nat)) 0xFFFFFF <<< (8 : Nat)) 0xFF

theorem rgb_lt (color : Int) : rgb color < 16 ^ 6 := by
  rw [rgb]
  omega

/-- The last bits of an integer of either sign are its remainder. -/
theorem land_mask (number : Int) (width : Nat) :
    Int.land number ((2 ^ width - 1 : Nat) : Int) = number % ((2 ^ width : Nat) : Int) := by
  have positive : 0 < 2 ^ width := Nat.two_pow_pos width
  cases number with
  | ofNat number =>
      change ((number &&& (2 ^ width - 1) : Nat) : Int) = _
      rw [Nat.and_two_pow_sub_one_eq_mod]
      rfl
  | negSucc number =>
      -- The complement of the bits of `number` below the width.
      have complement : Nat.ldiff (2 ^ width - 1) number =
          2 ^ width - (number % 2 ^ width + 1) := by
        apply Nat.eq_of_testBit_eq
        intro bit
        rw [Nat.testBit_ldiff, Nat.testBit_two_pow_sub_one,
          Nat.testBit_two_pow_sub_succ (Nat.mod_lt number positive), Nat.testBit_mod_two_pow]
        cases decide (bit < width) <;> simp
      change ((Nat.ldiff (2 ^ width - 1) number : Nat) : Int) = _
      have small := Nat.mod_lt number positive
      rw [complement, Int.negSucc_emod _ (by exact_mod_cast positive), Nat.cast_sub small]
      push_cast
      omega

theorem solidColor_eq (bits : Nat) : solidColor bits = ((bits <<< 8 ||| 0xFF : Nat) : Int) := by
  rw [← Nat.shiftLeft_add_eq_or_of_lt (by decide), Nat.shiftLeft_eq]
  rfl

/-- The color of the red, green and blue bits is what is kept. -/
theorem solidColor_rgb (color : Int) : solidColor (rgb color) = kept color := by
  have shifted : color >>> (8 : Nat) = color / 256 := by
    rw [Int.shiftRight_eq_div_pow]
    rfl
  have masked : Int.land (color >>> (8 : Nat)) 0xFFFFFF = (rgb color : Int) := by
    have remainder := land_mask (color >>> (8 : Nat)) 24
    rw [shifted] at remainder ⊢
    refine remainder.trans ?_
    rw [rgb]
    omega
  rw [kept, masked]
  exact solidColor_eq (rgb color)

/-! ## Reading what was written -/

theorem sixDigits_rgb (color : Int) : SixDigits (hexadecimalDigits 6 (rgb color)) where
  length := length_hexadecimalDigits (by decide) (rgb_lt color)
  hex := fun _ => isHexDigit_of_mem_hexadecimalDigits

/-- A declaration that is the whole text is found. -/
theorem find?_stroke {digits : List Char} (six : SixDigits digits) :
    find? ("stroke:#".toList ++ digits) = some digits := by
  have declares : Declares ("stroke".toList ++ ([] ++ ':' :: ([] ++ '#' :: (digits ++ [])))) digits :=
    .intro rfl (.intro rfl six ends_nil)
  have whole : "stroke".toList ++ ([] ++ ':' :: ([] ++ '#' :: (digits ++ []))) =
      "stroke:#".toList ++ digits := by
    simp
  rw [whole] at declares
  exact find?_eq_some.2 ⟨0, isFirst_zero.2 declares⟩

/-- Nothing in front of the declaration is one. -/
theorem find?_fill (text : List Char) : find? ("fill:none;".toList ++ text) = find? text := by
  simp [find?, declared?, property]

theorem read_eq_ok {text : String} {color : Int} :
    read (some text) = .ok color ↔ ∃ digits, find? text.toList = some digits ∧
      color = solidColor (hexadecimalValue digits) := by
  rw [read, Option.bind_some]
  cases find? text.toList with
  | none => simp
  | some digits => simp [eq_comm]

/-- A declaration of a color is read as what is kept of the color. -/
theorem read_stroke (color : Int) :
    read (some ("stroke:" ++ String.ofList (written color))) = .ok (kept color) := by
  have text : ("stroke:" ++ String.ofList (written color)).toList =
      "stroke:#".toList ++ hexadecimalDigits 6 (rgb color) := by
    simp [written]
  refine read_eq_ok.2 ⟨hexadecimalDigits 6 (rgb color), ?_, ?_⟩
  · rw [text, find?_stroke (sixDigits_rgb color)]
  · rw [hexadecimalValue_hexadecimalDigits, solidColor_rgb]

/-- The style of a color is read as what is kept of the color. -/
theorem read_written (color : Int) :
    read (some ("fill:none;stroke:" ++ String.ofList (written color))) = .ok (kept color) := by
  have text : ("fill:none;stroke:" ++ String.ofList (written color)).toList =
      "fill:none;".toList ++ ("stroke:" ++ String.ofList (written color)).toList := by
    simp
  obtain ⟨digits, found, color⟩ := read_eq_ok.1 (read_stroke color)
  exact read_eq_ok.2 ⟨digits, by rw [text, find?_fill, found], color⟩

/-! ## Reading any style -/

theorem solidColor_bounds {digits : List Char} (six : SixDigits digits) :
    0xFF ≤ solidColor (hexadecimalValue digits) ∧
      solidColor (hexadecimalValue digits) < 2 ^ 32 := by
  have bits := six.value_lt
  rw [solidColor]
  omega

/-- A color that is read has 32 bits. -/
theorem read_bounds {style : Option String} {color : Int} (succeeds : read style = .ok color) :
    0 ≤ color ∧ color < 2 ^ 32 := by
  rw [read] at succeeds
  split at succeeds
  next digits found =>
    cases succeeds
    obtain ⟨text, -, located⟩ := Option.bind_eq_some_iff.1 found
    obtain ⟨position, first⟩ := find?_eq_some.1 located
    obtain ⟨alpha, bits⟩ := solidColor_bounds first.declares.six
    exact ⟨Int.le_trans (by decide) alpha, bits⟩
  next => cases succeeds

end VectorScene.Stroke
