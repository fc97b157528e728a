import VectorScene.Canvas.Pixel
import VectorScene.Proofs.Number.Magnitude

/-!
# Normalized coordinates

Which pixels have a normalized coordinate on an extent, and which of these are
finite.
-/

namespace VectorScene.Canvas

open VectorScene.Number VectorScene.Number.Binary64

/-- A pixel that has no normalized coordinate on an extent: an integer whose ratio
to the extent is out of range, or a real number when the extent itself is. -/
def TooLarge (extent : Int) : Number → Prop
  | .integer position => overflow ≤ |2 * (position : Rat) / extent|
  | .real _ => overflow ≤ (extent : Rat)

/-- A pixel whose normalized coordinate is finite if there is one: an integer, or a
finite real number that can be doubled. -/
def StaysFinite : Number → Prop
  | .integer _ => True
  | .real value => value.isFinite = true ∧ |2 * value.toRat| < overflow

section

variable {extent : Int}

/-- A pixel that is too large has no normalized coordinate. -/
theorem normalizedOn_of_tooLarge (positive : 0 < extent) {position : Number}
    (large : TooLarge extent position) :
    normalizedOn position (.integer extent) = .error .beyondBinary64 := by
  have none : doubledRatio? position (.integer extent) = none := by
    cases position with
    | integer position => exact ofRat?_eq_none large
    | real value =>
        have absolute : |(extent : Rat)| = extent := abs_of_pos (Int.cast_pos.2 positive)
        rw [doubledRatio?, toBinary64?, ofRat?_eq_none (absolute.symm ▸ large)]
        rfl
  rw [normalizedOn, none]

/-- Any other pixel has one, which is finite when the pixel stays finite. -/
theorem exists_normalizedOn (positive : 0 < extent) {position : Number}
    (small : ¬TooLarge extent position) :
    ∃ result, normalizedOn position (.integer extent) = .ok result ∧
      (result.isFinite = true ↔ StaysFinite position) := by
  cases position with
  | integer position =>
      have bounded : |2 * (position : Rat) / extent| < overflow := not_le.1 small
      have ratio : doubledRatio? (.integer position) (.integer extent) =
          some (ofRat (2 * position / extent)) := ofRat?_eq_some bounded
      refine ⟨ofRat (2 * position / extent) - one, ?_, ?_⟩
      · rw [normalizedOn, ratio]
      · rw [isFinite_sub_one, isFinite_ofRat]
        exact iff_of_true bounded trivial
  | real value =>
      have bounded : (extent : Rat) < overflow := not_le.1 small
      have least : (1 : Rat) ≤ extent := by exact_mod_cast positive
      have absolute : |(extent : Rat)| < overflow := by
        rwa [abs_of_pos (Int.cast_pos.2 positive)]
      have length := ofRat_eq_finite (zero_le_one.trans least) bounded
      have ratio : doubledRatio? (.real value) (.integer extent) =
          some (two * value / ofRat extent) := by
        rw [doubledRatio?, toBinary64?, ofRat?_eq_some absolute]
        rfl
      refine ⟨two * value / ofRat extent - one, ?_, ?_⟩
      · rw [normalizedOn, ratio]
      · have large : 1 ≤ magnitude (Fin.mk (nearestOrdinal extent)
            (nearestOrdinal_lt_iff.2 bounded)).val := one_le_magnitude least
        rw [isFinite_sub_one, length, isFinite_div large, isFinite_two_mul]
        exact Iff.rfl

end

end VectorScene.Canvas
