import VectorScene.Points.List
import VectorScene.Proofs.Points.Form

/-!
# The values of coordinates

Every coordinate stands for a number, so that reading one never fails.
-/

namespace VectorScene.Points

open VectorScene.Text VectorScene.Number

/-! ## Characters -/

theorem IsSign.isNumeral {sign : List Char} (signed : IsSign sign) :
    ∀ c ∈ sign, Number.isNumeral c = true := by
  rcases signed with rfl | rfl | rfl
  · exact List.forall_mem_nil _
  · exact List.forall_mem_singleton.2 (by decide)
  · exact List.forall_mem_singleton.2 (by decide)

theorem IsDigits.isNumeral {digits : List Char} (isDigits : IsDigits digits) :
    ∀ c ∈ digits, Number.isNumeral c = true :=
  fun c member => isNumeral_of_isDigit (isDigits.2 c member)

theorem IsMantissa.isNumeral {mantissa : List Char} (isMantissa : IsMantissa mantissa) :
    ∀ c ∈ mantissa, Number.isNumeral c = true := by
  have point : Number.isNumeral '.' = true := by decide
  cases isMantissa with
  | fraction right => exact List.forall_mem_cons.2 ⟨point, right.isNumeral⟩
  | whole left => exact left.isNumeral
  | decimal left right =>
      exact List.forall_mem_append.2
        ⟨left.isNumeral, List.forall_mem_cons.2 ⟨point, right.isNumeral⟩⟩

theorem IsExponent.isNumeral {exponent : List Char} (isExponent : IsExponent exponent) :
    ∀ c ∈ exponent, Number.isNumeral c = true := by
  cases isExponent with
  | absent => exact List.forall_mem_nil _
  | power marks signed power =>
      have digits := List.forall_mem_append.2 ⟨signed.isNumeral, power.isNumeral⟩
      refine List.forall_mem_cons.2 ⟨?_, digits⟩
      rcases marks with rfl | rfl
      · decide
      · decide

theorem CoordinateForm.isNumeral {token : List Char} (form : CoordinateForm token) :
    ∀ c ∈ token, Number.isNumeral c = true := by
  obtain ⟨signed, digits, power⟩ := form
  exact List.forall_mem_append.2
    ⟨List.forall_mem_append.2 ⟨signed.isNumeral, digits.isNumeral⟩, power.isNumeral⟩

/-! ## Reading -/

/-- A sign is taken off a text that goes on without one. -/
theorem IsSign.exists_splitSign {sign text : List Char} (signed : IsSign sign)
    (unsigned : ∀ c ∈ text.head?, c ≠ '+' ∧ c ≠ '-') :
    ∃ negative, Number.splitSign (sign ++ text) = (negative, text) := by
  rcases signed with rfl | rfl | rfl
  · cases text with
    | nil => exact ⟨false, rfl⟩
    | cons c rest =>
        obtain ⟨plus, minus⟩ := unsigned c rfl
        exact ⟨false, by simp [Number.splitSign, plus, minus]⟩
  · exact ⟨false, rfl⟩
  · exact ⟨true, rfl⟩

theorem IsExponent.isSome_exponent? {exponent : List Char} (isExponent : IsExponent exponent) :
    (exponent? exponent).isSome = true := by
  cases isExponent with
  | absent => rfl
  | @power mark sign digits marks signed power =>
      have unsigned := power.unsigned []
      rw [List.append_nil] at unsigned
      obtain ⟨negative, split⟩ := signed.exists_splitSign unsigned
      have marked : (mark = 'e' || mark = 'E') = true := by simpa using marks
      have all : digits.all isDigit = true := List.all_eq_true.2 power.2
      simp [exponent?, split, marked, all, power.1]

/-- Neither a digit nor a point starts an exponent. -/
theorem IsExponent.head {exponent : List Char} (isExponent : IsExponent exponent) :
    ∀ c ∈ exponent.head?, isDigit c = false ∧ c ≠ '.' := by
  cases isExponent with
  | absent => exact nofun
  | power marks signed power =>
      rintro _ ⟨⟩
      rcases marks with rfl | rfl
      · decide
      · decide

section

variable {whole digits rest : List Char}

/-- The digits beside a point are read together, and the exponent counts from behind the last
one. -/
theorem decimal?_point (left : ∀ c ∈ whole, isDigit c = true) (right : IsDigits digits)
    (stops : ∀ c ∈ rest.head?, isDigit c = false) :
    decimal? (whole ++ '.' :: (digits ++ rest)) = (exponent? rest).map fun exponent =>
      ⟨decimalValue (whole ++ digits), exponent - digits.length⟩ := by
  have taken : (whole ++ '.' :: (digits ++ rest)).takeWhile isDigit = whole := by
    rw [List.takeWhile_append_of_pos left, List.takeWhile_cons_of_neg (by decide),
      List.append_nil]
  have dropped : (whole ++ '.' :: (digits ++ rest)).dropWhile isDigit =
      '.' :: (digits ++ rest) := by
    rw [List.dropWhile_append_of_pos left, List.dropWhile_cons_of_neg (by decide)]
  have fraction : (digits ++ rest).takeWhile isDigit = digits := by
    rw [takeWhile_append_of_stop stops, takeWhile_of_all right.2]
  have after : (digits ++ rest).dropWhile isDigit = rest := by
    rw [dropWhile_append_of_stop stops, dropWhile_of_all right.2, List.nil_append]
  simp [decimal?, taken, dropped, fraction, after, right.1]

/-- Digits without a point are read with their exponent. -/
theorem decimal?_whole (left : IsDigits digits)
    (stops : ∀ c ∈ rest.head?, isDigit c = false ∧ c ≠ '.') :
    decimal? (digits ++ rest) = (exponent? rest).map fun exponent =>
      ⟨decimalValue digits, exponent⟩ := by
  have noDigits : ∀ c ∈ rest.head?, isDigit c = false := fun c member => (stops c member).1
  have taken : (digits ++ rest).takeWhile isDigit = digits := by
    rw [takeWhile_append_of_stop noDigits, takeWhile_of_all left.2]
  have dropped : (digits ++ rest).dropWhile isDigit = rest := by
    rw [dropWhile_append_of_stop noDigits, dropWhile_of_all left.2, List.nil_append]
  rw [decimal?, taken, dropped]
  cases rest with
  | nil => simp [left.1]
  | cons c after => simp [left.1, (stops c rfl).2]

end

theorem isSome_decimal? {mantissa exponent : List Char} (isMantissa : IsMantissa mantissa)
    (isExponent : IsExponent exponent) : (decimal? (mantissa ++ exponent)).isSome = true := by
  have noDigits : ∀ c ∈ exponent.head?, isDigit c = false :=
    fun c member => (isExponent.head c member).1
  rw [← isExponent.isSome_exponent?]
  cases isMantissa with
  | @fraction digits right =>
      have read := decimal?_point (List.forall_mem_nil _) right noDigits
      rw [List.nil_append] at read
      rw [List.cons_append, read, Option.isSome_map]
  | whole left => rw [decimal?_whole left isExponent.head, Option.isSome_map]
  | decimal left right =>
      rw [List.append_assoc, List.cons_append, decimal?_point left.2 right noDigits,
        Option.isSome_map]

/-- Every coordinate is read as a real number, whether or not it is an integer. -/
theorem CoordinateForm.isSome_real? {token : List Char} (form : CoordinateForm token) :
    (real? token).isSome = true := by
  obtain @⟨sign, mantissa, exponent, signed, digits, power⟩ := form
  obtain ⟨negative, split⟩ := signed.exists_splitSign (digits.unsigned exponent)
  rw [real?, List.append_assoc, split]
  dsimp only
  split
  · rfl
  · split
    · rfl
    · rw [Option.isSome_map, isSome_decimal? digits power]

/-- Every coordinate stands for a number. -/
theorem CoordinateForm.exists_value {token : List Char} (form : CoordinateForm token) :
    ∃ number, value token = .ok number := by
  obtain ⟨nearest, read⟩ := Option.isSome_iff_exists.1 form.isSome_real?
  rw [value, ofText?_numerals form.isNumeral, read]
  cases integer? token with
  | none => exact ⟨.real nearest, rfl⟩
  | some exact => exact ⟨.integer exact, rfl⟩

end VectorScene.Points
