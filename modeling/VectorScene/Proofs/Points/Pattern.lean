import VectorScene.Proofs.Points.Form

/-!
# The pattern of a coordinate

A pattern is matched with backtracking: it takes the start of a text in one of several ways, which
are tried in a fixed order.  The way of the coordinate pattern that is tried first is the longest
one, and it is the coordinate that is split off the text.
-/

namespace VectorScene.Points

open VectorScene.Text

/-- A pattern: one character, a run of characters, an optional part, a choice or a sequence. -/
inductive Pattern where
  | one (accepts : Char → Bool)
  | many (accepts : Char → Bool)
  | optional (inner : Pattern)
  | either (first second : Pattern)
  | both (first second : Pattern)

namespace Pattern

/-- A text that a pattern matches as a whole. -/
def Matches : Pattern → List Char → Prop
  | one accepts, text => ∃ c, accepts c = true ∧ text = [c]
  | many accepts, text => text ≠ [] ∧ ∀ c ∈ text, accepts c = true
  | optional inner, text => inner.Matches text ∨ text = []
  | either first second, text => first.Matches text ∨ second.Matches text
  | both first second, text =>
      ∃ left right, first.Matches left ∧ second.Matches right ∧ text = left ++ right

/-- The ways to take one accepted character or more off a text, the longest first. -/
def runs (accepts : Char → Bool) : List Char → List (List Char × List Char)
  | [] => []
  | c :: rest =>
      if accepts c then (runs accepts rest).map (fun way => (c :: way.1, way.2)) ++ [([c], rest)]
      else []

/-- The ways to match the start of a text, in the order in which they are tried, each with the
rest of the text.  A run takes as much as it can, and an optional part is left out last. -/
def ways : Pattern → List Char → List (List Char × List Char)
  | one accepts, text =>
      match text with
      | [] => []
      | c :: rest => if accepts c then [([c], rest)] else []
  | many accepts, text => runs accepts text
  | optional inner, text => inner.ways text ++ [([], text)]
  | either first second, text => first.ways text ++ second.ways text
  | both first second, text =>
      (first.ways text).flatMap fun left =>
        (second.ways left.2).map fun right => (left.1 ++ right.1, right.2)

/-- The way that is tried first. -/
def first? (pattern : Pattern) (text : List Char) : Option (List Char × List Char) :=
  (pattern.ways text).head?

/-! ## The pattern of a coordinate -/

/-- A plus or a minus. -/
def sign : Pattern :=
  either (one (· = '+')) (one (· = '-'))

/-- One digit or more. -/
def digits : Pattern :=
  many isDigit

/-- A point and digits. -/
def fraction : Pattern :=
  both (one (· = '.')) digits

/-- A fraction, or digits with an optional fraction. -/
def mantissa : Pattern :=
  either fraction (both digits (optional fraction))

/-- A letter `e`, an optional sign and digits. -/
def exponent : Pattern :=
  both (one fun c => c = 'e' || c = 'E')
    (both (optional (one fun c => c = '+' || c = '-')) digits)

/-- An optional sign, a mantissa and an optional exponent. -/
def coordinate : Pattern :=
  both (optional sign) (both mantissa (optional exponent))

/-! ## Ways and whole matches -/

section

variable {accepts : Char → Bool} {pattern : Pattern} {text token rest : List Char}

theorem mem_runs :
    (token, rest) ∈ runs accepts text ↔
      (token ≠ [] ∧ ∀ c ∈ token, accepts c = true) ∧ token ++ rest = text := by
  induction text generalizing token with
  | nil =>
      refine iff_of_false List.not_mem_nil fun holds => holds.1.1 ?_
      exact (List.append_eq_nil_iff.1 holds.2).1
  | cons c text ih =>
      rw [runs]
      constructor
      · intro member
        split at member
        next accepted =>
          rcases List.mem_append.1 member with longer | single
          · obtain ⟨⟨more, after⟩, among, same⟩ := List.mem_map.1 longer
            obtain ⟨rfl, rfl⟩ := Prod.mk.inj same
            obtain ⟨⟨-, all⟩, rfl⟩ := ih.1 among
            exact ⟨⟨List.cons_ne_nil _ _, List.forall_mem_cons.2 ⟨accepted, all⟩⟩, rfl⟩
          · obtain ⟨rfl, rfl⟩ := Prod.mk.inj (List.mem_singleton.1 single)
            exact ⟨⟨List.cons_ne_nil _ _, List.forall_mem_singleton.2 accepted⟩, rfl⟩
        next => cases member
      · rintro ⟨⟨some, all⟩, whole⟩
        cases token with
        | nil => exact absurd rfl some
        | cons d token =>
            obtain ⟨rfl, rfl⟩ := List.cons.inj whole
            obtain ⟨accepted, all⟩ := List.forall_mem_cons.1 all
            rw [if_pos accepted, List.mem_append]
            cases token with
            | nil => exact .inr List.mem_cons_self
            | cons e token =>
                have among := ih.2 ⟨⟨List.cons_ne_nil e token, all⟩, rfl⟩
                exact .inl (List.mem_map.2 ⟨_, among, rfl⟩)

/-- A pattern takes the start of a text in some way exactly if it matches what it takes. -/
theorem mem_ways :
    (token, rest) ∈ pattern.ways text ↔ pattern.Matches token ∧ token ++ rest = text := by
  induction pattern generalizing text token rest with
  | one accepts =>
      cases text with
      | nil =>
          refine iff_of_false List.not_mem_nil ?_
          rintro ⟨⟨c, -, rfl⟩, whole⟩
          cases whole
      | cons c text =>
          rw [ways, Matches]
          constructor
          · intro member
            split at member
            next accepted =>
              obtain ⟨rfl, rfl⟩ := Prod.mk.inj (List.mem_singleton.1 member)
              exact ⟨⟨c, accepted, rfl⟩, rfl⟩
            next => cases member
          · rintro ⟨⟨d, accepted, rfl⟩, whole⟩
            obtain ⟨rfl, rfl⟩ := List.cons.inj whole
            rw [if_pos accepted]
            exact List.mem_cons_self
  | many accepts => exact mem_runs
  | optional inner ih =>
      rw [ways, List.mem_append, ih, List.mem_singleton, Prod.mk.injEq, Matches, or_and_right]
      refine or_congr_right (and_congr_right ?_)
      rintro rfl
      rw [List.nil_append]
  | either first second ihFirst ihSecond =>
      rw [ways, List.mem_append, ihFirst, ihSecond, Matches, or_and_right]
  | both first second ihFirst ihSecond =>
      simp only [ways, List.mem_flatMap, List.mem_map, Prod.exists, Prod.mk.injEq, ihFirst,
        ihSecond, Matches]
      constructor
      · rintro ⟨left, after, ⟨matchesLeft, rfl⟩, right, _, ⟨matchesRight, rfl⟩, rfl, rfl⟩
        exact ⟨⟨left, right, matchesLeft, matchesRight, rfl⟩, List.append_assoc _ _ _⟩
      · rintro ⟨⟨left, right, matchesLeft, matchesRight, rfl⟩, rfl⟩
        exact ⟨left, right ++ rest, ⟨matchesLeft, (List.append_assoc _ _ _).symm⟩, right, rest,
          ⟨matchesRight, rfl⟩, rfl, rfl⟩

end

/-! ## The coordinates that the pattern matches -/

section

variable {text : List Char}

@[simp] theorem matches_both {first second : Pattern} :
    (both first second).Matches text ↔
      ∃ left right, first.Matches left ∧ second.Matches right ∧ text = left ++ right :=
  Iff.rfl

theorem matches_char {c : Char} : (one (· = c)).Matches text ↔ text = [c] := by
  simp [Matches]

theorem matches_letter {c d : Char} :
    (one fun other => other = c || other = d).Matches text ↔ text = [c] ∨ text = [d] := by
  simp [Matches, or_and_right, exists_or]

theorem matches_optional_sign : (optional sign).Matches text ↔ IsSign text := by
  rw [Matches, sign, Matches, matches_char, matches_char, IsSign, or_comm]

theorem matches_optional_letter :
    (optional (one fun c => c = '+' || c = '-')).Matches text ↔ IsSign text := by
  rw [Matches, matches_letter, IsSign, or_comm]

theorem matches_fraction :
    fraction.Matches text ↔ ∃ after, IsDigits after ∧ text = '.' :: after := by
  rw [fraction, matches_both]
  constructor
  · rintro ⟨_, after, point, right, rfl⟩
    obtain rfl := matches_char.1 point
    exact ⟨after, right, rfl⟩
  · rintro ⟨after, right, rfl⟩
    exact ⟨['.'], after, matches_char.2 rfl, right, rfl⟩

theorem matches_mantissa : mantissa.Matches text ↔ IsMantissa text := by
  rw [mantissa, Matches, matches_fraction, matches_both]
  constructor
  · rintro (⟨after, right, rfl⟩ | ⟨whole, _, left, right | rfl, rfl⟩)
    · exact .fraction right
    · obtain ⟨after, digits, rfl⟩ := matches_fraction.1 right
      exact .decimal left digits
    · rw [List.append_nil]
      exact .whole left
  · rintro (right | left | ⟨left, right⟩)
    · exact .inl ⟨_, right, rfl⟩
    · exact .inr ⟨_, [], left, .inr rfl, (List.append_nil _).symm⟩
    · exact .inr ⟨_, _, left, .inl (matches_fraction.2 ⟨_, right, rfl⟩), rfl⟩

theorem matches_optional_exponent : (optional exponent).Matches text ↔ IsExponent text := by
  rw [Matches, exponent, matches_both]
  constructor
  · rintro (⟨mark, _, marks, ⟨sign, after, signed, power, rfl⟩, rfl⟩ | rfl)
    · have isSign := matches_optional_letter.1 signed
      rcases matches_letter.1 marks with rfl | rfl
      · rw [List.singleton_append]
        exact .power (.inl rfl) isSign power
      · rw [List.singleton_append]
        exact .power (.inr rfl) isSign power
    · exact .absent
  · rintro (_ | @⟨mark, _, _, marks, signed, power⟩)
    · exact .inr rfl
    · refine .inl ⟨[mark], _, ?_, ⟨_, _, matches_optional_letter.2 signed, power, rfl⟩, rfl⟩
      exact matches_letter.2 (marks.imp (congrArg ([·])) (congrArg ([·])))

/-- The texts that the pattern matches as a whole are the coordinates. -/
theorem matches_coordinate : coordinate.Matches text ↔ CoordinateForm text := by
  rw [coordinate, matches_both]
  constructor
  · rintro ⟨sign, _, signed, ⟨mantissa, exponent, digits, power, rfl⟩, rfl⟩
    rw [← List.append_assoc]
    exact .intro (matches_optional_sign.1 signed) (matches_mantissa.1 digits)
      (matches_optional_exponent.1 power)
  · rintro ⟨signed, digits, power⟩
    refine ⟨_, _, matches_optional_sign.2 signed, ⟨_, _, matches_mantissa.2 digits,
      matches_optional_exponent.2 power, rfl⟩, List.append_assoc _ _ _⟩

end

/-! ## The way that is tried first -/

section

variable {accepts : Char → Bool} {first second : Pattern} {text : List Char}

theorem first?_optional (inner : Pattern) (text : List Char) :
    (optional inner).first? text = some ((inner.first? text).getD ([], text)) := by
  rw [first?, ways, first?, List.head?_append]
  cases (inner.ways text).head? <;> rfl

theorem first?_either (first second : Pattern) (text : List Char) :
    (either first second).first? text = (first.first? text).or (second.first? text) := by
  rw [first?, ways, List.head?_append]
  rfl

theorem first?_both :
    (both first second).first? text = (first.ways text).findSome? fun left =>
      (second.first? left.2).map fun right => (left.1 ++ right.1, right.2) := by
  rw [first?, ways, List.head?_flatMap]
  simp only [List.head?_map]
  rfl

/-- Nothing is tried again when the second part always matches. -/
theorem first?_both_of_total {split : List Char → List Char × List Char}
    (total : ∀ rest, second.first? rest = some (split rest)) :
    (both first second).first? text =
      (first.first? text).map fun left => (left.1 ++ (split left.2).1, (split left.2).2) := by
  rw [first?_both, first?]
  simp only [total, Option.map_some]
  cases first.ways text <;> rfl

theorem head?_runs :
    (runs accepts text).head? =
      if text.takeWhile accepts = [] then none
      else some (text.takeWhile accepts, text.dropWhile accepts) := by
  induction text with
  | nil => rfl
  | cons c rest ih =>
      rw [runs]
      by_cases accepted : accepts c = true
      · rw [if_pos accepted, List.head?_append, List.head?_map, ih,
          List.takeWhile_cons_of_pos accepted, List.dropWhile_cons_of_pos accepted,
          if_neg (List.cons_ne_nil _ _)]
        split
        next none =>
          have whole : rest.takeWhile accepts ++ rest.dropWhile accepts = rest :=
            List.takeWhile_append_dropWhile
          rw [none, List.nil_append] at whole
          rw [none, whole]
          rfl
        next => rfl
      · rw [if_neg accepted, List.takeWhile_cons_of_neg accepted]
        rfl

/-- What a single character leaves is matched in one way only. -/
theorem first?_one_both (c : Char) (rest : List Char) :
    (both (one accepts) second).first? (c :: rest) =
      if accepts c then (second.first? rest).map fun right => (c :: right.1, right.2)
      else none := by
  rw [first?_both, ways]
  split
  next =>
    rw [List.findSome?_singleton]
    rfl
  next => rfl

/-- A pattern that is tried first as a text is split. -/
def SplitBy (pattern : Pattern) (split : List Char → List Char × List Char) : Prop :=
  ∀ text, pattern.first? text = if (split text).1 = [] then none else some (split text)

theorem SplitBy.optional {split : List Char → List Char × List Char} (splits : first.SplitBy split)
    (append : ∀ text, (split text).1 ++ (split text).2 = text) (text : List Char) :
    (optional first).first? text = some (split text) := by
  rw [first?_optional, splits]
  split
  next none =>
    have whole := append text
    rw [none, List.nil_append] at whole
    exact congrArg some (Prod.ext none.symm whole.symm)
  next => rfl

theorem splitBy_digits : digits.SplitBy splitDigits :=
  fun _ => head?_runs

theorem splitBy_fraction : fraction.SplitBy splitFraction := by
  intro text
  cases text with
  | nil => rfl
  | cons c rest =>
      rw [fraction, first?_one_both, splitBy_digits]
      by_cases point : c = '.'
      · subst point
        by_cases none : (splitDigits rest).1 = []
        · simp [splitFraction, none]
        · simp [splitFraction, none]
      · simp [splitFraction, point]

/-- Neither digits nor a sign start where a fraction does. -/
theorem splitDigits_of_splitFraction (some : (splitFraction text).1 ≠ []) :
    splitDigits text = ([], text) := by
  refine splitDigits_of_head fun c head => ?_
  cases text with
  | nil => cases head
  | cons d rest =>
      obtain rfl := Option.some.inj head
      by_contra digit
      rw [Bool.not_eq_false] at digit
      refine some (congrArg Prod.fst (splitFraction_of_head ?_))
      rintro _ ⟨⟩
      exact (isDigit_ne digit).2.2.1

theorem splitBy_mantissa : mantissa.SplitBy splitMantissa := by
  intro text
  rw [mantissa, first?_either,
    first?_both_of_total (splitBy_fraction.optional splitFraction_append), splitBy_digits,
    splitBy_fraction, splitMantissa]
  by_cases fraction : (splitFraction text).1 = []
  · rw [if_pos fraction, Option.none_or]
    by_cases whole : (splitDigits text).1 = []
    · have rest := splitDigits_append text
      rw [whole, List.nil_append] at rest
      rw [if_pos whole, if_pos (by rw [whole, rest, fraction]; rfl)]
      rfl
    · rw [if_neg whole, if_neg (List.append_ne_nil_of_left_ne_nil whole _)]
      rfl
  · -- A fraction is tried first, and where one starts there are no digits to be split off.
    rw [if_neg fraction, splitDigits_of_splitFraction fraction, List.nil_append, if_neg fraction]
    rfl

/-- The pattern takes one sign, in one way. -/
def Signs (pattern : Pattern) : Prop :=
  ∀ text, pattern.ways text = if (Points.splitSign text).1 = [] then [] else [Points.splitSign text]

theorem signs_sign : sign.Signs := by
  intro text
  unfold splitSign
  split
  next => rfl
  next => rfl
  next plus minus =>
    cases text with
    | nil => rfl
    | cons c rest =>
        have notPlus : c ≠ '+' := fun same => plus rest (same ▸ rfl)
        have notMinus : c ≠ '-' := fun same => minus rest (same ▸ rfl)
        simp [sign, ways, notPlus, notMinus]

theorem signs_letter : (one fun c => c = '+' || c = '-').Signs := by
  intro text
  rw [← signs_sign]
  cases text with
  | nil => rfl
  | cons c rest =>
      by_cases plus : c = '+'
      · simp [sign, ways, plus]
      · simp [sign, ways, plus]

/-- Leaving a sign out is of no use to a pattern that does not start with one. -/
theorem Signs.first?_both (signs : first.Signs)
    (unsigned : ∀ text, (splitSign text).1 ≠ [] → second.first? text = none) (text : List Char) :
    (both (optional first) second).first? text =
      (second.first? (splitSign text).2).map fun right =>
        ((splitSign text).1 ++ right.1, right.2) := by
  rw [Pattern.first?_both, ways, signs]
  by_cases signed : (splitSign text).1 = []
  · have whole := splitSign_append text
    rw [signed, List.nil_append] at whole
    rw [if_pos signed, signed, whole, List.nil_append, List.findSome?_singleton]
  · rw [if_neg signed, List.singleton_append, List.findSome?_cons, List.findSome?_singleton,
      unsigned text signed]
    cases second.first? (splitSign text).2 <;> rfl

theorem SplitBy.unsigned {split : List Char → List Char × List Char} (splits : first.SplitBy split)
    (plus : ∀ rest, (split ('+' :: rest)).1 = []) (minus : ∀ rest, (split ('-' :: rest)).1 = [])
    (text : List Char) (signed : (splitSign text).1 ≠ []) : first.first? text = none := by
  rw [splits]
  unfold splitSign at signed
  split at signed
  · exact if_pos (plus _)
  · exact if_pos (minus _)
  · exact absurd rfl signed

theorem splitBy_exponent : exponent.SplitBy splitExponent := by
  intro text
  cases text with
  | nil => rfl
  | cons c rest =>
      rw [exponent, first?_one_both, signs_letter.first?_both
        (splitBy_digits.unsigned (fun _ => rfl) fun _ => rfl), splitBy_digits, splitExponent]
      by_cases marked : (c = 'e' || c = 'E') = true
      · by_cases none : (splitDigits (splitSign rest).2).1 = []
        · simp [marked, none]
        · simp [marked, none]
      · simp [marked]

/-- The way that is tried first is the coordinate that is split off. -/
theorem first?_coordinate (text : List Char) :
    coordinate.first? text = splitCoordinate? text := by
  have unsigned : ∀ text, (splitSign text).1 ≠ [] →
      (both mantissa (optional exponent)).first? text = none := by
    intro text signed
    rw [first?_both_of_total (splitBy_exponent.optional splitExponent_append),
      splitBy_mantissa.unsigned (fun _ => rfl) (fun _ => rfl) text signed]
    rfl
  rw [coordinate, signs_sign.first?_both unsigned, splitCoordinate?_eq,
    first?_both_of_total (splitBy_exponent.optional splitExponent_append), splitBy_mantissa]
  split
  next => rfl
  next => rw [Option.map_some, Option.map_some, List.append_assoc]

end

end Pattern

end VectorScene.Points
