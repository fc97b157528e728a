import VectorScene.Proofs.Number.Decimal
import VectorScene.Proofs.Points.Value

/-!
# Written real numbers

A finite real number is written as a coordinate that is no integer, since it has a point or an
exponent.  Reading it gives the same number, zeros with their sign included.
-/

namespace VectorScene.Points

open VectorScene.Text VectorScene.Number

/-- A text that starts with a digit, is a coordinate and no integer, and is read as a decimal
with a value. -/
structure Spells (text : List Char) (value : Rat) : Prop where
  form : ∃ mantissa exponent, IsMantissa mantissa ∧ IsExponent exponent ∧
    text = mantissa ++ exponent
  head : startsWithDigit text = true
  partly : text.all isDigit = false
  value : ∃ decimal, decimal? text = some decimal ∧ decimal.toRat = value

/-! ## Digits -/

/-- A text is what is left without its zeros at the end, and these zeros. -/
theorem exists_trailingZeros (digits : List Char) :
    ∃ zeros, digits =
      (digits.reverse.dropWhile (· = '0')).reverse ++ List.replicate zeros '0' := by
  have split : digits.reverse.takeWhile (· = '0') ++ digits.reverse.dropWhile (· = '0') =
      digits.reverse := List.takeWhile_append_dropWhile
  have zeros : digits.reverse.takeWhile (· = '0') =
      List.replicate (digits.reverse.takeWhile (· = '0')).length '0' := by
    apply List.eq_replicate_length.2
    intro c member
    have zero := List.mem_takeWhile_imp member
    exact of_decide_eq_true zero
  refine ⟨(digits.reverse.takeWhile (· = '0')).length, ?_⟩
  rw [← List.reverse_replicate, ← zeros, ← List.reverse_append, split, List.reverse_reverse]

theorem isDigits_decimalDigits (number : Nat) : IsDigits (decimalDigits number) :=
  ⟨decimalDigits_ne_nil number, fun _ => isDigit_of_mem_decimalDigits⟩

theorem isDigit_of_mem_zeros {count : Nat} :
    ∀ c ∈ List.replicate count '0', isDigit c = true := by
  intro c member
  rw [(List.mem_replicate.1 member).2]
  decide

theorem IsDigits.leadingZeros {digits : List Char} (isDigits : IsDigits digits) (count : Nat) :
    IsDigits (List.replicate count '0' ++ digits) :=
  ⟨List.append_ne_nil_of_right_ne_nil _ isDigits.1,
    List.forall_mem_append.2 ⟨isDigit_of_mem_zeros, isDigits.2⟩⟩

theorem IsDigits.trailingZeros {digits : List Char} (isDigits : IsDigits digits) (count : Nat) :
    IsDigits (digits ++ List.replicate count '0') :=
  ⟨List.append_ne_nil_of_left_ne_nil isDigits.1 _,
    List.forall_mem_append.2 ⟨isDigits.2, isDigit_of_mem_zeros⟩⟩

theorem IsDigits.take {digits : List Char} (isDigits : IsDigits digits) {count : Nat}
    (positive : 0 < count) : IsDigits (digits.take count) := by
  refine ⟨?_, fun c member => isDigits.2 c (List.mem_of_mem_take member)⟩
  rw [ne_eq, List.take_eq_nil_iff, not_or]
  exact ⟨positive.ne', isDigits.1⟩

theorem IsDigits.drop {digits : List Char} (isDigits : IsDigits digits) {count : Nat}
    (short : count < digits.length) : IsDigits (digits.drop count) := by
  refine ⟨?_, fun c member => isDigits.2 c (List.mem_of_mem_drop member)⟩
  rw [ne_eq, List.drop_eq_nil_iff]
  omega

theorem IsDigits.startsWithDigit {digits : List Char} (isDigits : IsDigits digits)
    (rest : List Char) : startsWithDigit (digits ++ rest) = true := by
  cases digits with
  | nil => exact absurd rfl isDigits.1
  | cons c digits => exact isDigits.2 c List.mem_cons_self

/-- The digits of a positive number are not just the zeros at their end. -/
theorem isDigits_of_trailingZeros {number zeros : Nat} {digits : List Char}
    (positive : 0 < number) (same : decimalDigits number = digits ++ List.replicate zeros '0') :
    IsDigits digits ∧ number = decimalValue digits * 10 ^ zeros := by
  have value : number = decimalValue digits * 10 ^ zeros := by
    rw [← decimalValue_trailingZeros, ← same, decimalValue_decimalDigits]
  refine ⟨⟨?_, ?_⟩, value⟩
  · rintro rfl
    have zero : decimalValue [] = 0 := rfl
    rw [zero, Nat.zero_mul] at value
    omega
  · intro c member
    apply isDigit_of_mem_decimalDigits
    rw [same]
    exact List.mem_append_left _ member

/-! ## Layouts -/

section

variable {whole fraction digits exponent : List Char} {power : Int}

/-- Digits on both sides of a point, with an exponent or none. -/
theorem spells_point (left : IsDigits whole) (right : IsDigits fraction)
    (isExponent : IsExponent exponent) (read : exponent? exponent = some power) :
    Spells (whole ++ '.' :: (fraction ++ exponent))
      (decimalValue (whole ++ fraction) * (10 : Rat) ^ (power - fraction.length)) where
  form := ⟨_, exponent, .decimal left right, isExponent, by simp⟩
  head := left.startsWithDigit _
  partly := by
    have point : isDigit '.' = false := by decide
    simp [point]
  value := by
    have stops : ∀ c ∈ exponent.head?, isDigit c = false :=
      fun c member => (isExponent.head c member).1
    refine ⟨⟨decimalValue (whole ++ fraction), power - fraction.length⟩, ?_, Decimal.toRat_eq _⟩
    rw [decimal?_point left.2 right stops, read]
    rfl

theorem spells_zero : Spells ['0', '.', '0'] 0 := by
  have spells := spells_point (isDigits_decimalDigits 0) (isDigits_decimalDigits 0) .absent rfl
  have value : decimalValue (decimalDigits 0 ++ decimalDigits 0) = 0 := rfl
  rw [value, Nat.cast_zero, zero_mul] at spells
  exact spells

/-- Digits cut in two by a point, with an exponent or none. -/
theorem spells_between {count : Nat} (isDigits : IsDigits digits) (positive : 0 < count)
    (short : count < digits.length) (isExponent : IsExponent exponent)
    (read : exponent? exponent = some power) :
    Spells (digits.take count ++ '.' :: (digits.drop count ++ exponent))
      (decimalValue digits * (10 : Rat) ^ (power + count - digits.length)) := by
  have spells := spells_point (isDigits.take positive) (isDigits.drop short) isExponent read
  have place : power - (digits.drop count).length = power + count - digits.length := by
    rw [List.length_drop]
    omega
  rw [List.take_append_drop, place] at spells
  exact spells

/-- Digits with an exponent. -/
theorem spells_whole (left : IsDigits digits) (isExponent : IsExponent exponent)
    (read : exponent? exponent = some power) (present : exponent ≠ []) :
    Spells (digits ++ exponent) (decimalValue digits * (10 : Rat) ^ power) where
  form := ⟨digits, exponent, .whole left, isExponent, rfl⟩
  head := left.startsWithDigit _
  partly := by
    cases exponent with
    | nil => exact absurd rfl present
    | cons c rest => simp [(isExponent.head c rfl).1]
  value := by
    refine ⟨⟨decimalValue digits, power⟩, ?_, Decimal.toRat_eq _⟩
    rw [decimal?_whole left isExponent.head, read]
    rfl

/-- A positional text has a point and no exponent. -/
theorem spells_positional (isDigits : IsDigits digits) (point : Int) :
    Spells (Decimal.positional digits point)
      (decimalValue digits * (10 : Rat) ^ (point - digits.length)) := by
  have zero : IsDigits ['0'] := isDigits_decimalDigits 0
  rw [Decimal.positional]
  split
  -- All digits stand after the point and zeros before them.
  next low =>
    have spells := spells_point zero (isDigits.leadingZeros (-point).toNat) .absent rfl
    have leading : decimalValue (['0'] ++ (List.replicate (-point).toNat '0' ++ digits)) =
        decimalValue digits := by
      rw [← List.append_assoc]
      exact decimalValue_leadingZeros (_ + 1) digits
    have power : (0 : Int) - (List.replicate (-point).toNat '0' ++ digits).length =
        point - digits.length := by
      rw [List.length_append, List.length_replicate]
      omega
    rw [leading, power, List.append_nil] at spells
    exact spells
  next above =>
    split
    -- All digits stand before the point and zeros after them.
    next high =>
      have spells := spells_point (isDigits.trailingZeros (point.toNat - digits.length)) zero
        .absent rfl
      have trailing : decimalValue (digits ++
          List.replicate (point.toNat - digits.length) '0' ++ ['0']) =
            decimalValue digits * 10 ^ (point.toNat - digits.length + 1) := by
        rw [← decimalValue_trailingZeros, List.replicate_succ', List.append_assoc]
      have power : point - digits.length =
          (point.toNat - digits.length + 1 : Nat) + ((0 : Int) - ['0'].length) := by
        rw [List.length_singleton]
        omega
      rw [trailing, Nat.cast_mul, Nat.cast_pow, mul_assoc, ← zpow_natCast] at spells
      rw [power, zpow_add₀ (by norm_num)]
      exact spells
    -- The point stands among the digits.
    next inside =>
      have positive : 0 < point.toNat := by omega
      have short : point.toNat < digits.length := by omega
      have spells := spells_between isDigits positive short .absent rfl
      have place : (0 : Int) + point.toNat - digits.length = point - digits.length := by omega
      rw [place, List.append_nil] at spells
      exact spells

theorem exponent?_signed {sign : Char} {negative : Bool} (isDigits : IsDigits digits)
    (split : Number.splitSign (sign :: digits) = (negative, digits)) :
    exponent? ('e' :: sign :: digits) = some (signed negative (decimalValue digits)) := by
  have all : digits.all isDigit = true := List.all_eq_true.2 isDigits.2
  simp [exponent?, split, isDigits.1, all]

/-- The exponent of a scientific text is read as the exponent. -/
theorem exponent?_power (power : Int) (zeros : Nat) :
    exponent? ('e' :: (if power < 0 then '-' else '+') ::
      (List.replicate zeros '0' ++ decimalDigits power.natAbs)) = some power := by
  have isDigits := (isDigits_decimalDigits power.natAbs).leadingZeros zeros
  have value : decimalValue (List.replicate zeros '0' ++ decimalDigits power.natAbs) =
      power.natAbs := by
    rw [decimalValue_leadingZeros, decimalValue_decimalDigits]
  split
  next negative =>
    have signed : signed true power.natAbs = power := by
      rw [signed, if_pos rfl]
      omega
    rw [exponent?_signed isDigits rfl, value, signed]
  next nonnegative =>
    have signed : signed false power.natAbs = power := by
      rw [signed, if_neg Bool.false_ne_true]
      omega
    rw [exponent?_signed isDigits rfl, value, signed]

theorem isExponent_power (power : Int) (zeros : Nat) :
    IsExponent ('e' :: (if power < 0 then '-' else '+') ::
      (List.replicate zeros '0' ++ decimalDigits power.natAbs)) := by
  have isDigits := (isDigits_decimalDigits power.natAbs).leadingZeros zeros
  split
  · exact .power (.inl rfl) (.inr (.inr rfl)) isDigits
  · exact .power (.inl rfl) (.inr (.inl rfl)) isDigits

/-- A scientific text has an exponent, and a point unless there is a single digit. -/
theorem spells_scientific (isDigits : IsDigits digits) (point : Int) :
    Spells (Decimal.scientific digits point)
      (decimalValue digits * (10 : Rat) ^ (point - digits.length)) := by
  have read := exponent?_power (point - 1) (2 - (decimalDigits (point - 1).natAbs).length)
  have isExponent := isExponent_power (point - 1) (2 - (decimalDigits (point - 1).natAbs).length)
  have positive := List.length_pos_iff.2 isDigits.1
  rw [Decimal.scientific]
  split
  next single =>
    have place : point - 1 = point - digits.length := by omega
    have spells := spells_whole isDigits isExponent read (List.cons_ne_nil _ _)
    rw [List.take_of_length_le single, ← place]
    simpa using spells
  next several =>
    have place : point - 1 + (1 : Nat) - digits.length = point - digits.length := by omega
    have spells := spells_between isDigits one_pos (by omega) isExponent read
    rw [place] at spells
    simpa using spells

/-- The text of a positive decimal is read as its value. -/
theorem spells_layout {decimal : Decimal} (positive : 0 < decimal.coefficient) :
    Spells decimal.layout decimal.toRat := by
  obtain ⟨zeros, same⟩ := exists_trailingZeros (decimalDigits decimal.coefficient)
  rw [Decimal.layout, Decimal.toRat_eq]
  generalize ((decimalDigits decimal.coefficient).reverse.dropWhile (· = '0')).reverse = digits
    at same ⊢
  obtain ⟨isDigits, value⟩ := isDigits_of_trailingZeros positive same
  have length := congrArg List.length same
  rw [List.length_append, List.length_replicate] at length
  have place : decimal.scale - digits.length = (zeros : Int) + decimal.exponent := by
    rw [Decimal.scale]
    omega
  have total : (decimal.coefficient : Rat) * 10 ^ decimal.exponent =
      decimalValue digits * 10 ^ (decimal.scale - digits.length) := by
    rw [place, zpow_add₀ (by norm_num), zpow_natCast, ← mul_assoc, value, Nat.cast_mul,
      Nat.cast_pow, Nat.cast_ofNat]
  rw [total]
  split
  · exact spells_positional isDigits _
  · exact spells_scientific isDigits _

end

/-! ## Signs -/

/-- The sign of a written number. -/
def minus (negative : Bool) : List Char :=
  if negative then ['-'] else []

theorem isSign_minus (negative : Bool) : IsSign (minus negative) := by
  cases negative with
  | false => exact .inl rfl
  | true => exact .inr (.inr rfl)

/-- A text that starts with a digit is no name. -/
theorem ofList_toLower_ne {text name : List Char} (starts : startsWithDigit text = true)
    (named : startsWithDigit name = false) :
    String.ofList (text.map Char.toLower) ≠ String.ofList name := by
  have all : hexDigits.all (fun c => isDigit c = true → isDigit c.toLower = true) = true := by
    decide
  intro same
  rw [← String.ofList_injective same] at named
  cases text with
  | nil => cases starts
  | cons c rest =>
      have digit : isDigit c = true := starts
      have hex : isHexDigit c = true := by rw [isHexDigit, digit, Bool.true_or, Bool.true_or]
      have lower : isDigit c.toLower = true := of_isHexDigit all hex digit
      have other : isDigit c.toLower = false := named
      rw [lower] at other
      cases other

namespace Spells

variable {text : List Char} {value : Rat}

theorem splitSign_minus (spells : Spells text value) (negative : Bool) :
    Number.splitSign (minus negative ++ text) = (negative, text) := by
  have starts := spells.head
  cases text with
  | nil => cases starts
  | cons c rest =>
      cases negative with
      | true => rfl
      | false =>
          obtain ⟨plus, dash, -⟩ := isDigit_ne starts
          simp [minus, Number.splitSign, plus, dash]

theorem form_minus (spells : Spells text value) (negative : Bool) :
    CoordinateForm (minus negative ++ text) := by
  obtain ⟨mantissa, exponent, isMantissa, isExponent, rfl⟩ := spells.form
  rw [← List.append_assoc]
  exact .intro (isSign_minus negative) isMantissa isExponent

theorem integer?_minus (spells : Spells text value) (negative : Bool) :
    integer? (minus negative ++ text) = none := by
  rw [integer?, spells.splitSign_minus]
  simp [spells.partly]

theorem exists_real?_minus (spells : Spells text value) (negative : Bool) :
    ∃ decimal : Decimal, decimal.toRat = value ∧
      real? (minus negative ++ text) = some (decimal.toBinary64 negative) := by
  obtain ⟨decimal, read, same⟩ := spells.value
  have notInf := ofList_toLower_ne spells.head (show startsWithDigit "inf".toList = false by rfl)
  have notInfinity :=
    ofList_toLower_ne spells.head (show startsWithDigit "infinity".toList = false by rfl)
  have notNan := ofList_toLower_ne spells.head (show startsWithDigit "nan".toList = false by rfl)
  refine ⟨decimal, same, ?_⟩
  rw [String.ofList_toList] at notInf notInfinity notNan
  rw [real?, spells.splitSign_minus]
  simp [notInf, notInfinity, notNan, read]

end Spells

/-! ## Numbers -/

section

variable {real : Binary64}

/-- The text of a finite number is a sign and the text of a value near its magnitude. -/
theorem exists_spells (finite : real.isFinite = true) :
    ∃ negative text value, real.text = minus negative ++ text ∧ Spells text value ∧
      ∀ decimal : Decimal, decimal.toRat = value → decimal.toBinary64 negative = real := by
  cases real with
  | infinity negative => cases finite
  | nan => cases finite
  | finite negative ordinal =>
      rw [Binary64.text, ← minus]
      by_cases zero : ordinal.val = 0
      · refine ⟨negative, ['0', '.', '0'], 0, ?_, spells_zero, ?_⟩
        · rw [if_pos zero]
        · intro decimal same
          rw [Decimal.toBinary64_of_toRat_eq_zero same, Binary64.signedZero]
          exact congrArg (Binary64.finite negative) (Fin.ext zero.symm)
      · have reads := Decimal.nearestOrdinal_shortest ordinal
        have coefficient : (Decimal.shortest ordinal).coefficient ≠ 0 := by
          apply Decimal.coefficient_ne_zero
          rwa [reads]
        refine ⟨negative, _, _, ?_, spells_layout (Nat.pos_of_ne_zero coefficient), ?_⟩
        · rw [if_neg zero]
        · intro decimal same
          apply Decimal.toBinary64_of_reads zero
          rw [same, reads]

/-- A finite real number is written as a coordinate. -/
theorem form_text (finite : real.isFinite = true) : CoordinateForm real.text := by
  obtain ⟨negative, text, value, same, spells, -⟩ := exists_spells finite
  rw [same]
  exact spells.form_minus negative

/-- A written finite real number is read as the number. -/
theorem ofText?_text (finite : real.isFinite = true) : ofText? real.text = some (.real real) := by
  obtain ⟨negative, text, value, same, spells, reads⟩ := exists_spells finite
  obtain ⟨decimal, near, read⟩ := spells.exists_real?_minus negative
  rw [ofText?_numerals (form_text finite).isNumeral, same, spells.integer?_minus, read,
    reads decimal near]
  rfl

end

end VectorScene.Points
