/-!
# Rounding to the nearest integer

`nearestEven` rounds a rational to the nearest integer and a tie to the even
one.  Pixels, binary fractions and decimal digits are all rounded by it.
-/

namespace VectorScene.Number

/-- The integer nearest to a rational.  Of two equally near, the even one. -/
def nearestEven (value : Rat) : Int :=
  let below := value.num / value.den
  let remainder := value.num % value.den
  if 2 * remainder < value.den then below
  else if (value.den : Int) < 2 * remainder then below + 1
  else if below % 2 = 0 then below
  else below + 1

/-- An integer is its own nearest integer. -/
@[simp] theorem nearestEven_intCast (number : Int) : nearestEven (number : Rat) = number := by
  simp [nearestEven]

/-- The nearest integer is at most half a unit away. -/
theorem nearestEven_near (value : Rat) :
    -(value.den : Int) ≤ 2 * value.den * nearestEven value - 2 * value.num ∧
      2 * value.den * nearestEven value - 2 * value.num ≤ value.den := by
  have positive : (0 : Int) < value.den := by exact_mod_cast value.den_pos
  have split := Int.mul_ediv_add_emod value.num value.den
  have low := Int.emod_nonneg value.num (Int.ne_of_gt positive)
  have high := Int.emod_lt_of_pos value.num positive
  have expand : 2 * (value.den : Int) * (value.num / value.den + 1) =
      2 * (value.den * (value.num / value.den)) + 2 * value.den := by
    rw [Int.mul_add, Int.mul_assoc]; simp
  have expand' : 2 * (value.den : Int) * (value.num / value.den) =
      2 * (value.den * (value.num / value.den)) := Int.mul_assoc ..
  unfold nearestEven
  dsimp only
  split
  · rw [expand']; omega
  · split
    · rw [expand]; omega
    · split
      · rw [expand']; omega
      · rw [expand]; omega

end VectorScene.Number
