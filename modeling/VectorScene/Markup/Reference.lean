import VectorScene.Markup.Scanner

/-!
# References

A text or an attribute value consists of characters and of references, which
give a character by its code or name an entity.
-/

namespace VectorScene.Markup

/-- A part of a text or an attribute value: a character as it stands, a character
given by its code, or a reference to an entity. -/
inductive Piece where
  | character (c : Char)
  | code (c : Char)
  | entity (name : List Char)
  deriving DecidableEq

/-- The entities that every document has. -/
def predefined : List (List Char × Char) :=
  [(['l', 't'], '<'), (['g', 't'], '>'), (['a', 'm', 'p'], '&'), (['q', 'u', 'o', 't'], '"'),
    (['a', 'p', 'o', 's'], '\'')]

/-- The legal character with a code. -/
def characterOfCode? (code : Nat) : Option Char :=
  if valid : code.isValidChar then
    let c := Char.ofNatAux code valid
    if isLegal c then some c else none
  else none

/-- Take the digits and the semicolon of a character code off a text. -/
def code? (isDigit : Char → Bool) (value : List Char → Nat) (text : List Char) :
    Option (Piece × List Char) :=
  match text.dropWhile isDigit with
  | ';' :: rest =>
      let digits := text.takeWhile isDigit
      if digits.isEmpty then none
      else (characterOfCode? (value digits)).map fun c => (.code c, rest)
  | _ => none

/-- Take a reference off a text that follows an ampersand. -/
def reference? : List Char → Option (Piece × List Char)
  | '#' :: 'x' :: rest => code? Text.isHexDigit Text.hexadecimalValue rest
  | '#' :: rest => code? Text.isDigit Text.decimalValue rest
  | text =>
      (plainName? text).bind fun (name, rest) =>
        (after? [';'] rest).map fun rest => (.entity name, rest)

theorem code?_shorter {isDigit : Char → Bool} {value : List Char → Nat} {text rest : List Char}
    {part : Piece} (found : code? isDigit value text = some (part, rest)) :
    rest.length < text.length := by
  unfold code? at found
  have bound := length_dropWhile_le isDigit text
  split at found
  next rest' dropped =>
    rw [dropped] at bound
    simp only [List.length_cons] at bound
    dsimp only at found
    split at found
    · cases found
    · obtain ⟨c, -, same⟩ := Option.map_eq_some_iff.1 found
      simp only [Prod.mk.injEq] at same
      rw [← same.2]
      omega
  · cases found

theorem reference?_shorter {text rest : List Char} {part : Piece}
    (found : reference? text = some (part, rest)) : rest.length < text.length := by
  unfold reference? at found
  split at found
  · have := code?_shorter found
    simp only [List.length_cons]
    omega
  · have := code?_shorter found
    simp only [List.length_cons]
    omega
  · obtain ⟨⟨name, afterName⟩, first, second⟩ := Option.bind_eq_some_iff.1 found
    obtain ⟨rest', marked, same⟩ := Option.map_eq_some_iff.1 second
    have shorter := plainName?_shorter first
    have length := after?_length marked
    have final : rest' = rest := (Prod.mk.inj same).2
    subst final
    simp only [List.length_cons, List.length_nil] at length
    omega

/-- The pieces of an attribute value or an entity. -/
def pieces? : List Char → Option (List Piece)
  | [] => some []
  | '&' :: rest =>
      match _found : reference? rest with
      | some (part, rest) => (pieces? rest).map (part :: ·)
      | none => none
  | c :: rest => (pieces? rest).map (.character c :: ·)
termination_by text => text.length
decreasing_by
  · have := reference?_shorter _found
    simp only [List.length_cons]
    omega
  · simp

/-- The pieces of the value of an attribute, which holds no opening angle bracket. -/
def valuePieces? (value : List Char) : Option (List Piece) :=
  if value.contains '<' then none else pieces? value

/-- Take a text between single or double quotes off a text. -/
def literal? : List Char → Option (List Char × List Char)
  | quote :: rest =>
      if quote = '"' || quote = '\'' then splitAt? [quote] rest else none
  | [] => none

theorem literal?_shorter {text value rest : List Char}
    (found : literal? text = some (value, rest)) : rest.length < text.length := by
  unfold literal? at found
  split at found
  · split at found
    · exact Nat.lt_succ_of_le (splitAt?_shorter found)
    · cases found
  · cases found

end VectorScene.Markup
