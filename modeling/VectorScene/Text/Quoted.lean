import VectorScene.Text.Digit
import VectorScene.Text.Printable

/-!
# Quoted text

Messages show a text between quotes.  The quote is the single one, unless the
text holds a single quote and no double quote.  The quote, the backslash and
unprintable characters are escaped.
-/

namespace VectorScene.Text

/-- The quote that encloses a text. -/
def enclosingQuote (cs : List Char) : Char :=
  if cs.contains '\'' && !cs.contains '"' then '"' else '\''

/-- The escape of an unprintable character: two, four or eight hexadecimal
digits, whichever suffice first. -/
def escapeCode (code : Nat) : List Char :=
  if code < 0x100 then '\\' :: 'x' :: hexadecimalDigits 2 code
  else if code < 0x10000 then '\\' :: 'u' :: hexadecimalDigits 4 code
  else '\\' :: 'U' :: hexadecimalDigits 8 code

/-- A character as a quoted text shows it. -/
def escape (quote c : Char) : List Char :=
  if c = '\\' || c = quote then ['\\', c]
  else if c = '\n' then ['\\', 'n']
  else if c = '\r' then ['\\', 'r']
  else if c = '\t' then ['\\', 't']
  else if isPrintable c then [c]
  else escapeCode c.toNat

/-- A text between quotes. -/
def quoted (text : String) : String :=
  let cs := text.toList
  let quote := enclosingQuote cs
  String.ofList (quote :: cs.flatMap (escape quote) ++ [quote])

end VectorScene.Text
