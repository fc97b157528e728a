import VectorScene.Number.Literal

/-!
# Coordinates in a text

A coordinate is an optional sign, digits with an optional fraction or a fraction
alone, and an optional exponent, all in ASCII digits.  `cut` takes a text apart
into its coordinates, each as long as possible, and the gaps around them.
-/

namespace VectorScene.Points

open VectorScene.Text

/-- Split off an optional sign. -/
def splitSign : List Char → List Char × List Char
  | '+' :: rest => (['+'], rest)
  | '-' :: rest => (['-'], rest)
  | text => ([], text)

/-- Split off all leading digits. -/
def splitDigits (text : List Char) : List Char × List Char :=
  (text.takeWhile isDigit, text.dropWhile isDigit)

/-- Split off a point and the digits after it, if there are any. -/
def splitFraction : List Char → List Char × List Char
  | '.' :: rest =>
      let (digits, after) := splitDigits rest
      if digits.isEmpty then ([], '.' :: rest) else ('.' :: digits, after)
  | text => ([], text)

/-- Split off an exponent: a letter `e`, an optional sign and digits. -/
def splitExponent : List Char → List Char × List Char
  | c :: rest =>
      if c = 'e' || c = 'E' then
        let (sign, unsigned) := splitSign rest
        let (digits, after) := splitDigits unsigned
        if digits.isEmpty then ([], c :: rest) else (c :: sign ++ digits, after)
      else ([], c :: rest)
  | [] => ([], [])

/-- Split off the coordinate that a text starts with. -/
def splitCoordinate? (text : List Char) : Option (List Char × List Char) :=
  let (sign, unsigned) := splitSign text
  let (whole, afterWhole) := splitDigits unsigned
  let (fraction, afterFraction) := splitFraction afterWhole
  if whole.isEmpty && fraction.isEmpty then none
  else
    let (exponent, rest) := splitExponent afterFraction
    some (sign ++ whole ++ fraction ++ exponent, rest)

/-! ## What is split off is not lost -/

@[simp] theorem splitSign_append (text : List Char) :
    (splitSign text).1 ++ (splitSign text).2 = text := by
  unfold splitSign
  split <;> rfl

@[simp] theorem splitDigits_append (text : List Char) :
    (splitDigits text).1 ++ (splitDigits text).2 = text :=
  List.takeWhile_append_dropWhile

@[simp] theorem splitFraction_append (text : List Char) :
    (splitFraction text).1 ++ (splitFraction text).2 = text := by
  unfold splitFraction
  split
  · dsimp only
    split
    · rfl
    · simp
  · rfl

@[simp] theorem splitExponent_append (text : List Char) :
    (splitExponent text).1 ++ (splitExponent text).2 = text := by
  unfold splitExponent
  split
  · split
    · dsimp only
      split
      · rfl
      · simp
    · rfl
  · rfl

theorem splitCoordinate?_append {text token rest : List Char}
    (found : splitCoordinate? text = some (token, rest)) : token ++ rest = text := by
  unfold splitCoordinate? at found
  dsimp only at found
  split at found
  · cases found
  · simp only [Option.some.injEq, Prod.mk.injEq] at found
    obtain ⟨rfl, rfl⟩ := found
    simp

theorem splitCoordinate?_ne_nil {text token rest : List Char}
    (found : splitCoordinate? text = some (token, rest)) : token ≠ [] := by
  unfold splitCoordinate? at found
  dsimp only at found
  split at found
  · cases found
  next digits =>
    simp only [Option.some.injEq, Prod.mk.injEq] at found
    obtain ⟨rfl, -⟩ := found
    simp only [Bool.and_eq_true, List.isEmpty_iff, not_and] at digits
    simp only [ne_eq, List.append_eq_nil_iff, not_and]
    intro signAndWhole
    exact absurd signAndWhole.1.2 (fun whole => digits whole signAndWhole.2)

theorem splitCoordinate?_shorter {text token rest : List Char}
    (found : splitCoordinate? text = some (token, rest)) : rest.length < text.length := by
  have whole := congrArg List.length (splitCoordinate?_append found)
  have positive := List.length_pos_iff.2 (splitCoordinate?_ne_nil found)
  simp only [List.length_append] at whole
  omega

/-! ## Cutting a text -/

/-- A text cut at its coordinates: the gap before the first one, and each
coordinate with the gap after it. -/
structure Cut where
  lead : List Char
  parts : List (List Char × List Char)
  deriving DecidableEq

/-- Cut a text at its coordinates, found from left to right. -/
def cut : List Char → Cut
  | [] => ⟨[], []⟩
  | c :: rest =>
      match _found : splitCoordinate? (c :: rest) with
      | some (token, after) =>
          let following := cut after
          ⟨[], (token, following.lead) :: following.parts⟩
      | none =>
          let following := cut rest
          ⟨c :: following.lead, following.parts⟩
termination_by text => text.length
decreasing_by
  · exact splitCoordinate?_shorter _found
  · simp

namespace Cut

/-- The coordinates of a cut text. -/
def tokens (cut : Cut) : List (List Char) :=
  cut.parts.map Prod.fst

/-- The gaps after the coordinates. -/
def gaps (cut : Cut) : List (List Char) :=
  cut.parts.map Prod.snd

/-- The text that was cut. -/
def join (cut : Cut) : List Char :=
  cut.lead ++ cut.parts.flatMap fun part => part.1 ++ part.2

end Cut

/-- Cutting a text loses nothing. -/
@[simp] theorem join_cut (text : List Char) : (cut text).join = text := by
  fun_induction cut text with
  | case1 => rfl
  | case2 c rest token after found following ih =>
      have whole := splitCoordinate?_append found
      simp only [Cut.join, List.nil_append, List.flatMap_cons, List.append_assoc] at ih ⊢
      rw [ih, whole]
  | case3 c rest found following ih =>
      simp only [Cut.join, List.cons_append] at ih ⊢
      rw [ih]

end VectorScene.Points
