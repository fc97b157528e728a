import VectorScene.Number.Decimal
import VectorScene.Text.Blank

/-!
# Number literals

A text is a number when it is, between white space, an integer literal or a real
literal.  Digits of every script count, and an underscore may stand between two
digits.  An integer with more than `maxDigits` digits is read as a real number.
-/

namespace VectorScene

open VectorScene.Text

/-- A number: an integer of any size, or a binary64 value. -/
inductive Number where
  | integer (value : Int)
  | real (value : Number.Binary64)
  deriving DecidableEq

namespace Number

/-- The most decimal digits that an integer is read from or written with. -/
def maxDigits : Nat := 4300

/-! ## Writing -/

/-- The decimal digits of an integer with its sign. -/
def integerText (value : Int) : List Char :=
  if value < 0 then '-' :: decimalDigits value.natAbs else decimalDigits value.natAbs

/-- The text of a number, unless it is an integer with too many digits. -/
def text? : Number → Option (List Char)
  | .integer value =>
      if (decimalDigits value.natAbs).length ≤ maxDigits then some (integerText value) else none
  | .real value => some value.text

/-! ## Reading -/

/-- The ASCII character that a literal holds for a character of any script.
Characters without one stand for themselves and occur in no literal. -/
def toAscii (c : Char) : Char :=
  if c.toNat < 128 then c
  else if isBlank c then ' '
  else match digitValue? c with
    | some value => Char.ofNat (48 + value)
    | none => c

/-- The white space of the ASCII range that may surround a literal. -/
def isAsciiSpace (c : Char) : Bool :=
  c = ' ' || (0x09 ≤ c.toNat && c.toNat ≤ 0x0D)

/-- The characters of a literal in ASCII, without the surrounding white space. -/
def literal (text : List Char) : List Char :=
  trimBy isAsciiSpace (text.map toAscii)

/-- Whether a text starts with a digit. -/
def startsWithDigit : List Char → Bool
  | c :: _ => isDigit c
  | [] => false

/-- Remove the underscores of a literal.  Each must stand between two digits. -/
def ungroup (afterDigit : Bool) : List Char → Option (List Char)
  | [] => some []
  | '_' :: rest => if afterDigit && startsWithDigit rest then ungroup false rest else none
  | c :: rest => (ungroup (isDigit c) rest).map (c :: ·)

/-- Split off a sign.  The flag tells whether it is negative. -/
def splitSign : List Char → Bool × List Char
  | '-' :: rest => (true, rest)
  | '+' :: rest => (false, rest)
  | text => (false, text)

/-- A natural number with a sign. -/
def signed (negative : Bool) (value : Nat) : Int :=
  if negative then -value else value

/-- Read an integer literal without underscores. -/
def integer? (text : List Char) : Option Int :=
  let (negative, digits) := splitSign text
  if digits.isEmpty || !digits.all isDigit || maxDigits < digits.length then none
  else some (signed negative (decimalValue digits))

/-- Read the exponent of a real literal: nothing, or a letter `e`, an optional
sign and digits. -/
def exponent? : List Char → Option Int
  | [] => some 0
  | c :: rest =>
      let (negative, digits) := splitSign rest
      if (c = 'e' || c = 'E') && !digits.isEmpty && digits.all isDigit then
        some (signed negative (decimalValue digits))
      else none

/-- Read an unsigned decimal: digits with at most one point among or beside
them, then an exponent. -/
def decimal? (text : List Char) : Option Decimal :=
  let whole := text.takeWhile isDigit
  let (fraction, rest) :=
    match text.dropWhile isDigit with
    | '.' :: rest => (rest.takeWhile isDigit, rest.dropWhile isDigit)
    | rest => ([], rest)
  if whole.isEmpty && fraction.isEmpty then none
  else (exponent? rest).map fun exponent =>
    ⟨decimalValue (whole ++ fraction), exponent - fraction.length⟩

/-- Read a real literal without underscores: a decimal, an infinity or NaN. -/
def real? (text : List Char) : Option Binary64 :=
  let (negative, rest) := splitSign text
  let name := String.ofList (rest.map Char.toLower)
  if name = "inf" || name = "infinity" then some (.infinity negative)
  else if name = "nan" then some .nan
  else (decimal? rest).map (Decimal.toBinary64 negative)

/-- Read a real number from a text, also where an integer is written. -/
def realOfText? (text : List Char) : Option Binary64 :=
  (ungroup false (literal text)).bind real?

/-- Read a number: an integer if the text is one, and a real number otherwise. -/
def ofText? (text : List Char) : Option Number :=
  (ungroup false (literal text)).bind fun plain =>
    ((integer? plain).map .integer).or ((real? plain).map .real)

/-- Whether a number is finite as a binary64 number.  An integer is when its
nearest binary64 value is. -/
def isFinite : Number → Bool
  | .integer value => (Binary64.ofRat value).isFinite
  | .real value => value.isFinite

end Number

end VectorScene
