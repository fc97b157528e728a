import VectorScene.Proofs.Points.Value

/-!
# Coordinates among the literals

A coordinate is a number literal, and a finite number literal is a coordinate unless it is
written with an underscore, with a character beyond ASCII or with a point that no digit
follows.
-/

namespace VectorScene.Points

open VectorScene.Text VectorScene.Number

/-- A digit follows each point of a text. -/
def Pointed (text : List Char) : Prop :=
  ∀ before after, text = before ++ '.' :: after → startsWithDigit after = true

/-- A text of ASCII characters without underscores, in which a digit follows each point. -/
structure PlainLiteral (text : List Char) : Prop where
  ascii : ∀ c ∈ text, c.toNat < 128
  ungrouped : '_' ∉ text
  pointed : Pointed text

/-! ## Points in coordinates -/

section

variable {first second digits : List Char}

theorem pointed_of_not_mem (none : '.' ∉ first) : Pointed first := by
  rintro before after rfl
  simp at none

theorem Pointed.append (left : Pointed first) (right : Pointed second) :
    Pointed (first ++ second) := by
  intro before after same
  rcases List.append_eq_append_iff.1 same with ⟨part, -, rest⟩ | ⟨part, rfl, rest⟩
  · exact right part after rest
  · cases part with
    | nil => exact right [] after rest.symm
    | cons c part =>
        obtain ⟨rfl, rfl⟩ := List.cons.inj rest
        have digit := left before part rfl
        cases part with
        | nil => cases digit
        | cons d part => exact digit

theorem Pointed.of_append (pointed : Pointed (first ++ second)) : Pointed second := by
  rintro before after rfl
  exact pointed (first ++ before) after (List.append_assoc _ _ _).symm

theorem IsDigits.pointed (isDigits : IsDigits digits) : Pointed digits :=
  pointed_of_not_mem fun member => (isDigit_ne (isDigits.2 '.' member)).2.2.1 rfl

theorem IsDigits.pointed_point (isDigits : IsDigits digits) : Pointed ('.' :: digits) := by
  intro before after same
  cases before with
  | nil =>
      obtain rfl : digits = after := (List.cons.inj same).2
      have head := isDigits.head []
      rw [List.append_nil] at head
      cases digits with
      | nil => exact absurd rfl isDigits.1
      | cons d rest => exact head d rfl
  | cons c before => exact isDigits.pointed before after (List.cons.inj same).2

theorem IsSign.pointed {sign : List Char} (signed : IsSign sign) : Pointed sign := by
  rcases signed with rfl | rfl | rfl
  · exact pointed_of_not_mem (by decide)
  · exact pointed_of_not_mem (by decide)
  · exact pointed_of_not_mem (by decide)

theorem IsMantissa.pointed {mantissa : List Char} (isMantissa : IsMantissa mantissa) :
    Pointed mantissa := by
  cases isMantissa with
  | fraction right => exact right.pointed_point
  | whole left => exact left.pointed
  | decimal left right => exact left.pointed.append right.pointed_point

theorem IsExponent.pointed {exponent : List Char} (isExponent : IsExponent exponent) :
    Pointed exponent := by
  cases isExponent with
  | absent => exact pointed_of_not_mem (by decide)
  | @power mark sign digits marks signed power =>
      have letter : Pointed [mark] := by
        refine pointed_of_not_mem ?_
        rcases marks with rfl | rfl
        · decide
        · decide
      exact letter.append (signed.pointed.append power.pointed)

theorem CoordinateForm.plain {token : List Char} (form : CoordinateForm token) :
    PlainLiteral token where
  ascii := fun c member => (isNumeral_range (form.isNumeral c member)).1
  ungrouped := fun member => (isNumeral_range (form.isNumeral '_' member)).2.2 rfl
  pointed := by
    obtain ⟨signed, digits, power⟩ := form
    exact (signed.pointed.append digits.pointed).append power.pointed

end

/-! ## Literals -/

section

variable {text : List Char}

theorem exists_sign (text : List Char) :
    ∃ sign, IsSign sign ∧ text = sign ++ (Number.splitSign text).2 := by
  rw [Number.splitSign.eq_def]
  split
  · exact ⟨['-'], .inr (.inr rfl), rfl⟩
  · exact ⟨['+'], .inr (.inl rfl), rfl⟩
  · exact ⟨[], .inl rfl, rfl⟩

theorem isExponent_of_exponent? {exponent : Int} (read : exponent? text = some exponent) :
    IsExponent text := by
  cases text with
  | nil => exact .absent
  | cons mark rest =>
      obtain ⟨sign, signed, whole⟩ := exists_sign rest
      rw [exponent?] at read
      dsimp only at read
      split at read
      next holds =>
        simp only [Bool.and_eq_true, Bool.or_eq_true, decide_eq_true_eq, Bool.not_eq_true',
          List.isEmpty_eq_false_iff, List.all_eq_true] at holds
        obtain ⟨⟨marks, some⟩, digits⟩ := holds
        rw [whole]
        exact .power marks signed ⟨some, digits⟩
      next => cases read

theorem isDigits_takeWhile (starts : startsWithDigit text = true) :
    IsDigits (text.takeWhile isDigit) := by
  refine ⟨?_, fun _ member => List.mem_takeWhile_imp member⟩
  cases text with
  | nil => cases starts
  | cons c rest =>
      have digit : isDigit c = true := starts
      rw [List.takeWhile_cons_of_pos digit]
      exact List.cons_ne_nil c _

/-- A decimal in which a digit follows the point is a mantissa with an exponent. -/
theorem exists_of_decimal? {decimal : Decimal} (read : decimal? text = some decimal)
    (pointed : Pointed text) :
    ∃ mantissa exponent, IsMantissa mantissa ∧ IsExponent exponent ∧
      text = mantissa ++ exponent := by
  have front : text.takeWhile isDigit ++ text.dropWhile isDigit = text :=
    List.takeWhile_append_dropWhile
  have digits : ∀ c ∈ text.takeWhile isDigit, isDigit c = true :=
    fun _ member => List.mem_takeWhile_imp member
  rw [decimal?] at read
  generalize text.takeWhile isDigit = whole at front digits read
  generalize text.dropWhile isDigit = after at front read
  subst front
  dsimp only at read
  split at read
  next rest =>
    split at read
    next => cases read
    next =>
      obtain ⟨power, parsed, -⟩ := Option.map_eq_some_iff.1 read
      have right := isDigits_takeWhile (pointed whole rest rfl)
      refine ⟨whole ++ '.' :: rest.takeWhile isDigit, rest.dropWhile isDigit, ?_,
        isExponent_of_exponent? parsed, ?_⟩
      · cases whole with
        | nil => exact .fraction right
        | cons c whole => exact .decimal ⟨List.cons_ne_nil c whole, digits⟩ right
      · rw [List.append_assoc, List.cons_append, List.takeWhile_append_dropWhile]
  next =>
    split at read
    next => cases read
    next some =>
      obtain ⟨power, parsed, -⟩ := Option.map_eq_some_iff.1 read
      have left : IsDigits whole := ⟨by simpa using some, digits⟩
      exact ⟨whole, after, .whole left, isExponent_of_exponent? parsed, rfl⟩

/-- An integer literal is an optional sign and digits, which are not too many. -/
theorem exists_integer?_iff :
    (∃ value, integer? text = some value) ↔
      ∃ sign digits, IsSign sign ∧ IsDigits digits ∧ digits.length ≤ maxDigits ∧
        text = sign ++ digits := by
  constructor
  · rintro ⟨value, read⟩
    obtain ⟨sign, signed, whole⟩ := exists_sign text
    rw [integer?] at read
    dsimp only at read
    split at read
    next => cases read
    next holds =>
      simp only [Bool.or_eq_true, not_or, List.isEmpty_iff, Bool.not_eq_true', decide_eq_true_eq,
        Bool.not_eq_false, List.all_eq_true, Nat.not_lt] at holds
      obtain ⟨⟨some, digits⟩, short⟩ := holds
      exact ⟨sign, _, signed, ⟨some, digits⟩, short, whole⟩
  · rintro ⟨sign, digits, signed, isDigits, short, rfl⟩
    have unsigned := isDigits.unsigned []
    rw [List.append_nil] at unsigned
    obtain ⟨negative, split⟩ := signed.exists_splitSign unsigned
    have all : digits.all isDigit = true := List.all_eq_true.2 isDigits.2
    refine ⟨Number.signed negative (decimalValue digits), ?_⟩
    simp [integer?, split, all, isDigits.1, short]

theorem form_of_integer? {value : Int} (read : integer? text = some value) :
    CoordinateForm text := by
  obtain ⟨sign, digits, signed, isDigits, -, rfl⟩ := exists_integer?_iff.1 ⟨value, read⟩
  have form : CoordinateForm (sign ++ digits ++ []) := .intro signed (.whole isDigits) .absent
  rwa [List.append_nil] at form

/-- A finite real number in which a digit follows the point is a coordinate. -/
theorem form_of_real? {value : Binary64} (read : real? text = some value)
    (finite : value.isFinite = true) (pointed : Pointed text) : CoordinateForm text := by
  obtain ⟨sign, signed, whole⟩ := exists_sign text
  rw [real?] at read
  dsimp only at read
  split at read
  next =>
    cases read
    cases finite
  next =>
    split at read
    next =>
      cases read
      cases finite
    next =>
      obtain ⟨decimal, parsed, -⟩ := Option.map_eq_some_iff.1 read
      rw [whole] at pointed
      obtain ⟨mantissa, exponent, digits, power, same⟩ :=
        exists_of_decimal? parsed pointed.of_append
      rw [whole, same, ← List.append_assoc]
      exact .intro signed digits power

end

/-- A finite number literal is a coordinate exactly when it is plain. -/
theorem coordinateForm_iff {text : List Char} (solid : ∀ c ∈ text, isBlank c = false)
    {number : Number} (read : ofText? text = some number) (finite : number.isFinite = true) :
    CoordinateForm text ↔ PlainLiteral text := by
  constructor
  · exact CoordinateForm.plain
  · rintro ⟨ascii, ungrouped, pointed⟩
    rw [ofText?_plain ascii solid ungrouped, Option.or_eq_some_iff] at read
    rcases read with exact | ⟨-, nearest⟩
    · obtain ⟨value, parsed, -⟩ := Option.map_eq_some_iff.1 exact
      exact form_of_integer? parsed
    · obtain ⟨value, parsed, rfl⟩ := Option.map_eq_some_iff.1 nearest
      exact form_of_real? parsed finite pointed

end VectorScene.Points
