import VectorScene.Text.Blank
import VectorScene.Value

/-!
# Stroke colors

A color is an integer with eight bits each of red, green, blue and opacity.  A
document keeps the first three, as the `stroke` declaration of a style, so a
color is read back as fully opaque.
-/

namespace VectorScene.Stroke

open VectorScene.Text

/-- The red, green and blue bits of a color of any size and sign. -/
def rgb (color : Int) : Nat :=
  ((color / 256) % 16777216).toNat

/-- The fully opaque color with the given red, green and blue bits. -/
def solidColor (bits : Nat) : Int :=
  (bits * 256 + 255 : Nat)

/-- The written form of a color: `#` and six hexadecimal digits. -/
def written (color : Int) : List Char :=
  '#' :: hexadecimalDigits 6 (rgb color)

/-- The written form of a scene value.  Only integers and flags are colors. -/
def valueWritten : Value → Except Fault String
  | .flag value => .ok (String.ofList (written (if value then 1 else 0)))
  | .number (.integer color) => .ok (String.ofList (written color))
  | _ => .error .colorNotInteger

/-- The style that a shape is written with. -/
def style (color : Value) : Except Fault String :=
  (valueWritten color).map ("fill:none;stroke:" ++ ·)

/-! ## Reading -/

/-- The text after a given character, if white space and that character come
first. -/
def afterMark? (mark : Char) (text : List Char) : Option (List Char) :=
  match text.dropWhile isBlank with
  | c :: rest => if c = mark then some rest else none
  | [] => none

/-- The six digits of a color that a text starts with.  A seventh digit must not
follow. -/
def digits? (text : List Char) : Option (List Char) :=
  let digits := text.take 6
  if digits.length = 6 && digits.all isHexDigit && !(text.drop 6).head?.any isHexDigit then
    some digits
  else none

/-- The name of the declaration that gives the color. -/
def property : List Char := ['s', 't', 'r', 'o', 'k', 'e']

/-- The digits of the color if a text starts with a declaration of it. -/
def declared? (text : List Char) : Option (List Char) :=
  if property.isPrefixOf text then
    ((afterMark? ':' (text.drop property.length)).bind (afterMark? '#')).bind digits?
  else none

/-- The digits of the first color declared in a text. -/
def find? : List Char → Option (List Char)
  | [] => none
  | c :: rest => (declared? (c :: rest)).or (find? rest)

/-- The color that a style declares. -/
def read (style : Option String) : Except Defect Int :=
  match style.bind fun text => find? text.toList with
  | some digits => .ok (solidColor (hexadecimalValue digits))
  | none => .error (.colorNotFound style)

end VectorScene.Stroke
