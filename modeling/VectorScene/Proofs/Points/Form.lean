import Mathlib.Data.List.TakeWhile
import VectorScene.Proofs.Points.Coordinate

/-!
# The form of a coordinate

What a coordinate is, said without the functions that find one.  The coordinate that is
split off a text is the longest one that the text starts with.
-/

namespace VectorScene.Points

open VectorScene.Text

/-- Nothing or a sign. -/
def IsSign (text : List Char) : Prop :=
  text = [] ∨ text = ['+'] ∨ text = ['-']

/-- One digit or more. -/
def IsDigits (text : List Char) : Prop :=
  text ≠ [] ∧ ∀ c ∈ text, isDigit c = true

/-- Digits with an optional fraction, or a fraction alone.  A fraction is a point and
digits. -/
inductive IsMantissa : List Char → Prop where
  | fraction {digits : List Char} (right : IsDigits digits) : IsMantissa ('.' :: digits)
  | whole {digits : List Char} (left : IsDigits digits) : IsMantissa digits
  | decimal {whole digits : List Char} (left : IsDigits whole) (right : IsDigits digits) :
      IsMantissa (whole ++ '.' :: digits)

/-- Nothing, or a letter `e` with an optional sign and digits. -/
inductive IsExponent : List Char → Prop where
  | absent : IsExponent []
  | power {mark : Char} {sign digits : List Char} (marks : mark = 'e' ∨ mark = 'E')
      (signed : IsSign sign) (power : IsDigits digits) : IsExponent (mark :: (sign ++ digits))

/-- An optional sign, a mantissa and an optional exponent. -/
inductive CoordinateForm : List Char → Prop where
  | intro {sign mantissa exponent : List Char} (signed : IsSign sign)
      (digits : IsMantissa mantissa) (power : IsExponent exponent) :
      CoordinateForm (sign ++ mantissa ++ exponent)

/-- The longest coordinate that a text starts with. -/
structure IsLongest (text token : List Char) : Prop where
  form : CoordinateForm token
  leads : token <+: text
  longest : ∀ other, CoordinateForm other → other <+: text → other.length ≤ token.length

/-! ## Digits and signs -/

/-- Digits are taken as a whole. -/
theorem splitDigits_append_of_all {digits : List Char} (all : ∀ c ∈ digits, isDigit c = true)
    (rest : List Char) :
    splitDigits (digits ++ rest) = (digits ++ (splitDigits rest).1, (splitDigits rest).2) := by
  rw [splitDigits, List.takeWhile_append_of_pos all, List.dropWhile_append_of_pos all]
  rfl

theorem splitDigits_of_head {text : List Char} (stops : ∀ c ∈ text.head?, isDigit c = false) :
    splitDigits text = ([], text) := by
  cases text with
  | nil => rfl
  | cons c rest => simp [splitDigits, stops c rfl]

theorem isDigit_of_mem_splitDigits {text : List Char} :
    ∀ c ∈ (splitDigits text).1, isDigit c = true :=
  fun _ member => List.mem_takeWhile_imp member

theorem splitDigits_eq_nil_or (text : List Char) :
    (splitDigits text).1 = [] ∨ IsDigits (splitDigits text).1 := by
  rw [IsDigits]
  exact (Decidable.em _).imp_right fun some => ⟨some, isDigit_of_mem_splitDigits⟩

theorem isSign_splitSign (text : List Char) : IsSign (splitSign text).1 := by
  unfold splitSign
  split
  · exact .inr (.inl rfl)
  · exact .inr (.inr rfl)
  · exact .inl rfl

theorem splitSign_append_of_head {sign text : List Char} (signed : IsSign sign)
    (unsigned : ∀ c ∈ text.head?, c ≠ '+' ∧ c ≠ '-') : splitSign (sign ++ text) = (sign, text) := by
  rcases signed with rfl | rfl | rfl
  · cases text with
    | nil => rfl
    | cons c rest =>
        obtain ⟨plus, minus⟩ := unsigned c rfl
        simp [splitSign, plus, minus]
  · rfl
  · rfl

theorem isDigit_ne {c : Char} (digit : isDigit c = true) :
    c ≠ '+' ∧ c ≠ '-' ∧ c ≠ '.' ∧ c ≠ 'e' ∧ c ≠ 'E' := by
  refine ⟨?_, ?_, ?_, ?_, ?_⟩
  all_goals
    rintro rfl
    cases digit

theorem IsDigits.head {digits : List Char} (isDigits : IsDigits digits) (rest : List Char) :
    ∀ c ∈ (digits ++ rest).head?, isDigit c = true := by
  cases digits with
  | nil => exact absurd rfl isDigits.1
  | cons d more =>
      rintro _ ⟨⟩
      exact isDigits.2 d List.mem_cons_self

theorem IsDigits.unsigned {digits : List Char} (isDigits : IsDigits digits) (rest : List Char) :
    ∀ c ∈ (digits ++ rest).head?, c ≠ '+' ∧ c ≠ '-' := by
  intro c member
  have digit := isDigit_ne (isDigits.head rest c member)
  exact ⟨digit.1, digit.2.1⟩

/-! ## Mantissas -/

/-- Split off a mantissa. -/
def splitMantissa (text : List Char) : List Char × List Char :=
  ((splitDigits text).1 ++ (splitFraction (splitDigits text).2).1,
    (splitFraction (splitDigits text).2).2)

/-- A coordinate is split off sign, mantissa and exponent one after the other. -/
theorem splitCoordinate?_eq (text : List Char) :
    splitCoordinate? text =
      if (splitMantissa (splitSign text).2).1 = [] then none
      else some
        ((splitSign text).1 ++ (splitMantissa (splitSign text).2).1 ++
            (splitExponent (splitMantissa (splitSign text).2).2).1,
          (splitExponent (splitMantissa (splitSign text).2).2).2) := by
  simp only [splitCoordinate?, splitMantissa, Bool.and_eq_true, List.isEmpty_iff,
    List.append_eq_nil_iff, List.append_assoc]

theorem splitFraction_point {digits : List Char} (isDigits : IsDigits digits) (rest : List Char) :
    splitFraction ('.' :: (digits ++ rest)) =
      ('.' :: (digits ++ (splitDigits rest).1), (splitDigits rest).2) := by
  simp [splitFraction, splitDigits_append_of_all isDigits.2, isDigits.1]

theorem splitFraction_of_head {text : List Char} (stops : ∀ c ∈ text.head?, c ≠ '.') :
    splitFraction text = ([], text) := by
  cases text with
  | nil => rfl
  | cons c rest => simp [splitFraction, stops c rfl]

theorem splitMantissa_point {digits : List Char} (isDigits : IsDigits digits) (rest : List Char) :
    splitMantissa ('.' :: digits ++ rest) =
      ('.' :: (digits ++ (splitDigits rest).1), (splitDigits rest).2) := by
  have none : splitDigits ('.' :: (digits ++ rest)) = ([], '.' :: (digits ++ rest)) :=
    splitDigits_of_head fun c point => by
      cases point
      rfl
  rw [splitMantissa, List.cons_append, none, splitFraction_point isDigits]
  rfl

theorem splitMantissa_decimal {whole digits : List Char} (left : IsDigits whole)
    (right : IsDigits digits) (rest : List Char) :
    splitMantissa (whole ++ '.' :: digits ++ rest) =
      (whole ++ '.' :: (digits ++ (splitDigits rest).1), (splitDigits rest).2) := by
  have some : splitDigits (whole ++ '.' :: (digits ++ rest)) =
      (whole, '.' :: (digits ++ rest)) := by
    rw [splitDigits_append_of_all left.2, splitDigits_of_head, List.append_nil]
    rintro c ⟨⟩
    rfl
  rw [splitMantissa, List.append_assoc, List.cons_append, some, splitFraction_point right]

theorem splitMantissa_whole {digits : List Char} (left : IsDigits digits) (rest : List Char) :
    splitMantissa (digits ++ rest) =
      (digits ++ (splitMantissa rest).1, (splitMantissa rest).2) := by
  rw [splitMantissa, splitDigits_append_of_all left.2, splitMantissa, List.append_assoc]

/-- At least a mantissa is split off a text that starts with one. -/
theorem IsMantissa.prefix_splitMantissa {mantissa : List Char} (isMantissa : IsMantissa mantissa)
    (rest : List Char) : mantissa <+: (splitMantissa (mantissa ++ rest)).1 := by
  cases isMantissa with
  | fraction right =>
      rw [splitMantissa_point right, ← List.cons_append]
      exact List.prefix_append _ _
  | whole left =>
      rw [splitMantissa_whole left]
      exact List.prefix_append _ _
  | decimal left right =>
      rw [splitMantissa_decimal left right, ← List.cons_append, ← List.append_assoc]
      exact List.prefix_append _ _

/-- Just the mantissa is split off when neither a digit nor a point follows. -/
theorem IsMantissa.splitMantissa_eq {mantissa rest : List Char} (isMantissa : IsMantissa mantissa)
    (stops : ∀ c ∈ rest.head?, isDigit c = false ∧ c ≠ '.') :
    splitMantissa (mantissa ++ rest) = (mantissa, rest) := by
  have noDigits := splitDigits_of_head fun c member => (stops c member).1
  have noPoint := splitFraction_of_head fun c member => (stops c member).2
  cases isMantissa with
  | fraction right => rw [splitMantissa_point right, noDigits, List.append_nil]
  | whole left =>
      rw [splitMantissa_whole left, splitMantissa, noDigits, noPoint, List.append_nil,
        List.append_nil]
  | decimal left right => rw [splitMantissa_decimal left right, noDigits, List.append_nil]

theorem isMantissa_splitMantissa {text : List Char} (some : (splitMantissa text).1 ≠ []) :
    IsMantissa (splitMantissa text).1 := by
  have fraction (after : List Char) : (splitFraction after).1 = [] ∨
      ∃ digits, IsDigits digits ∧ (splitFraction after).1 = '.' :: digits := by
    unfold splitFraction
    split
    next rest =>
      dsimp only
      split
      next => exact .inl rfl
      next present =>
        refine .inr ⟨_, ?_, rfl⟩
        exact (splitDigits_eq_nil_or rest).resolve_left fun empty => present (by rw [empty]; rfl)
    next => exact .inl rfl
  rw [splitMantissa] at some ⊢
  rcases splitDigits_eq_nil_or text with noWhole | whole
  · rcases fraction (splitDigits text).2 with noFraction | ⟨digits, isDigits, same⟩
    · exact absurd (List.append_eq_nil_iff.2 ⟨noWhole, noFraction⟩) some
    · rw [noWhole, same]
      exact .fraction isDigits
  · rcases fraction (splitDigits text).2 with noFraction | ⟨digits, isDigits, same⟩
    · rw [noFraction, List.append_nil]
      exact .whole whole
    · rw [same]
      exact .decimal whole isDigits

theorem IsMantissa.unsigned {mantissa : List Char} (isMantissa : IsMantissa mantissa)
    (rest : List Char) : ∀ c ∈ (mantissa ++ rest).head?, c ≠ '+' ∧ c ≠ '-' := by
  cases isMantissa with
  | fraction right =>
      rintro _ ⟨⟩
      decide
  | whole left => exact left.unsigned rest
  | decimal left right =>
      rw [List.append_assoc]
      exact left.unsigned _

theorem IsMantissa.ne_nil {mantissa : List Char} (isMantissa : IsMantissa mantissa) :
    mantissa ≠ [] := by
  cases isMantissa with
  | fraction right => exact List.cons_ne_nil _ _
  | whole left => exact left.1
  | decimal left right => exact List.append_ne_nil_of_left_ne_nil left.1 _

/-! ## Exponents -/

theorem splitExponent_mark {mark : Char} {sign digits : List Char}
    (marks : mark = 'e' ∨ mark = 'E') (signed : IsSign sign) (power : IsDigits digits)
    (rest : List Char) :
    splitExponent (mark :: (sign ++ digits) ++ rest) =
      (mark :: (sign ++ (digits ++ (splitDigits rest).1)), (splitDigits rest).2) := by
  have marked : (mark = 'e' || mark = 'E') = true := by simpa using marks
  simp [splitExponent, marked, splitSign_append_of_head signed (power.unsigned rest),
    splitDigits_append_of_all power.2, power.1]

theorem IsExponent.prefix_splitExponent {exponent : List Char} (isExponent : IsExponent exponent)
    (rest : List Char) : exponent <+: (splitExponent (exponent ++ rest)).1 := by
  cases isExponent with
  | absent => exact List.nil_prefix
  | power marks signed power =>
      rw [splitExponent_mark marks signed power, ← List.append_assoc, ← List.cons_append]
      exact List.prefix_append _ _

theorem isExponent_splitExponent (text : List Char) : IsExponent (splitExponent text).1 := by
  unfold splitExponent
  split
  next c rest =>
    split
    next marked =>
      dsimp only
      split
      next => exact .absent
      next present =>
        have digits := (splitDigits_eq_nil_or (splitSign rest).2).resolve_left fun empty =>
          present (by rw [empty]; rfl)
        exact .power (by simpa using marked) (isSign_splitSign rest) digits
    next => exact .absent
  next => exact .absent

/-! ## Coordinates -/

/-- What is split off is a coordinate. -/
theorem form_of_splitCoordinate? {text token rest : List Char}
    (found : splitCoordinate? text = some (token, rest)) : CoordinateForm token := by
  rw [splitCoordinate?_eq] at found
  split at found
  next => cases found
  next present =>
    cases found
    exact .intro (isSign_splitSign text) (isMantissa_splitMantissa present)
      (isExponent_splitExponent _)

/-- At least a coordinate is split off a text that starts with one. -/
theorem CoordinateForm.exists_splitCoordinate? {token : List Char} (form : CoordinateForm token)
    (rest : List Char) :
    ∃ longer after, splitCoordinate? (token ++ rest) = some (longer, after) ∧
      token <+: longer := by
  obtain @⟨sign, mantissa, exponent, signed, digits, power⟩ := form
  have split : splitSign (sign ++ mantissa ++ exponent ++ rest) =
      (sign, mantissa ++ (exponent ++ rest)) := by
    rw [List.append_assoc, List.append_assoc]
    exact splitSign_append_of_head signed (digits.unsigned _)
  have taken := digits.prefix_splitMantissa (exponent ++ rest)
  have present : (splitMantissa (mantissa ++ (exponent ++ rest))).1 ≠ [] := fun empty =>
    digits.ne_nil (List.prefix_nil.1 (empty ▸ taken))
  rw [splitCoordinate?_eq, split, if_neg present]
  refine ⟨_, _, rfl, ?_⟩
  rw [List.append_assoc, List.append_assoc]
  refine (List.prefix_append_right_inj sign).2 ?_
  cases power with
  | absent =>
      rw [List.append_nil]
      exact taken.trans (List.prefix_append _ _)
  | @power mark _ _ marks powerSigned power =>
      have stops : isDigit mark = false ∧ mark ≠ '.' := by
        rcases marks with rfl | rfl
        · decide
        · decide
      rw [digits.splitMantissa_eq (by rintro c ⟨⟩; exact stops)]
      refine (List.prefix_append_right_inj mantissa).2 ?_
      exact (IsExponent.power marks powerSigned power).prefix_splitExponent rest

/-- No coordinate is split off exactly when the text starts with none. -/
theorem splitCoordinate?_eq_none {text : List Char} :
    splitCoordinate? text = none ↔ ∀ token, CoordinateForm token → ¬token <+: text := by
  constructor
  · rintro missing token form ⟨rest, rfl⟩
    obtain ⟨longer, after, found, -⟩ := form.exists_splitCoordinate? rest
    rw [missing] at found
    cases found
  · intro none
    cases found : splitCoordinate? text with
    | none => rfl
    | some parts =>
        obtain ⟨token, rest⟩ := parts
        have form := form_of_splitCoordinate? found
        exact absurd ⟨rest, splitCoordinate?_append found⟩ (none token form)

/-- The coordinate that is split off is the longest one that the text starts with. -/
theorem splitCoordinate?_eq_some {text token rest : List Char} :
    splitCoordinate? text = some (token, rest) ↔ token ++ rest = text ∧ IsLongest text token := by
  constructor
  · intro found
    have whole := splitCoordinate?_append found
    refine ⟨whole, form_of_splitCoordinate? found, ⟨rest, whole⟩, ?_⟩
    rintro other form ⟨after, rfl⟩
    obtain ⟨longer, _, same, leads⟩ := form.exists_splitCoordinate? after
    rw [found] at same
    cases same
    exact leads.length_le
  · rintro ⟨rfl, longest⟩
    obtain ⟨longer, after, found, leads⟩ := longest.form.exists_splitCoordinate? rest
    have whole := splitCoordinate?_append found
    have bounded := longest.longest longer (form_of_splitCoordinate? found) ⟨after, whole⟩
    obtain rfl := leads.eq_of_length_le bounded
    rw [found, List.append_cancel_left whole]

/-- A text is a coordinate as a whole exactly when it has the form of one. -/
theorem isCoordinate_iff {token : List Char} : IsCoordinate token ↔ CoordinateForm token := by
  constructor
  · exact form_of_splitCoordinate?
  · intro form
    refine splitCoordinate?_eq_some.2 ⟨List.append_nil token, form, List.prefix_rfl, ?_⟩
    exact fun other _ leads => leads.length_le

end VectorScene.Points
