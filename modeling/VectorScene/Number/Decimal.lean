import VectorScene.Number.Binary64
import VectorScene.Text.Digit

/-!
# Decimal numbers

Decimals are the written form of binary64 numbers.  Reading takes the nearest
binary64 value.  Writing takes the decimal with the fewest digits that reads
back, and of two such decimals of one length the nearer.
-/

namespace VectorScene.Number

open VectorScene.Text

/-- A power of ten with an integer exponent. -/
def powerOfTen (exponent : Int) : Rat :=
  if 0 ≤ exponent then (Nat.pow 10 exponent.toNat : Nat)
  else mkRat 1 (Nat.pow 10 (-exponent).toNat)

/-- The nonnegative number `coefficient · 10^exponent`. -/
structure Decimal where
  coefficient : Nat
  exponent : Int
  deriving DecidableEq

namespace Decimal

/-- The exact value of a decimal. -/
def toRat (decimal : Decimal) : Rat :=
  decimal.coefficient * powerOfTen decimal.exponent

/-- The exponent that the decimal would have with its point before its first
digit. -/
def scale (decimal : Decimal) : Int :=
  (decimalDigits decimal.coefficient).length + decimal.exponent

/-- The binary64 number nearest to a decimal with a sign.  Magnitudes from
`10^310` on are infinite and those below `10^-330` are zero, so their powers of
ten need not be computed. -/
def toBinary64 (negative : Bool) (decimal : Decimal) : Binary64 :=
  if decimal.coefficient = 0 then .signedZero negative
  else if 310 < decimal.scale then .infinity negative
  else if decimal.scale < -330 then .signedZero negative
  else .ofMagnitude negative decimal.toRat

/-! ## The shortest decimal -/

/-- The largest integer whose power of ten does not exceed a positive rational. -/
def decimalLog (value : Rat) : Int :=
  let estimate :=
    ((decimalDigits value.num.natAbs).length : Int) - (decimalDigits value.den).length
  if powerOfTen estimate ≤ value then estimate else estimate - 1

/-- The two neighbours of a positive rational among the decimals with a given
number of digits, the nearer one first and the even one on a tie. -/
def neighbours (value : Rat) (digits : Nat) : List Decimal :=
  let place := decimalLog value - digits + 1
  let scaled := value / powerOfTen place
  let nearer := nearestEven scaled
  let farther := if nearer ≤ scaled then nearer + 1 else nearer - 1
  [⟨nearer.toNat, place⟩, ⟨farther.toNat, place⟩]

/-- Whether a decimal is read as the magnitude at a position. -/
def readsAs (ordinal : Nat) (decimal : Decimal) : Bool :=
  Binary64.nearestOrdinal decimal.toRat = ordinal

/-- The decimal equal to the magnitude at a position. -/
def exact (ordinal : Nat) : Decimal :=
  let place := Binary64.lastPlace ordinal
  if 0 ≤ place then ⟨Binary64.significand ordinal * Nat.pow 2 place.toNat, 0⟩
  else ⟨Binary64.significand ordinal * Nat.pow 5 (-place).toNat, place⟩

/-- The shortest decimal that is read as the magnitude at a position.
Seventeen digits always suffice. -/
def shortest (ordinal : Nat) : Decimal :=
  let value := Binary64.magnitude ordinal
  ((List.range 17).findSome? fun digits =>
    (neighbours value (digits + 1)).find? (readsAs ordinal)).getD (exact ordinal)

/-! ## Layout -/

/-- Digits with a decimal point after the first `point` of them.  At least one
digit stands on either side of the point. -/
def positional (digits : List Char) (point : Int) : List Char :=
  if point ≤ 0 then
    '0' :: '.' :: List.replicate (-point).toNat '0' ++ digits
  else if digits.length ≤ point then
    digits ++ List.replicate (point.toNat - digits.length) '0' ++ ['.', '0']
  else
    digits.take point.toNat ++ '.' :: digits.drop point.toNat

/-- Digits with the point after the first one, then a power of ten with a sign
and two digits or more. -/
def scientific (digits : List Char) (point : Int) : List Char :=
  let exponent := point - 1
  let written := decimalDigits exponent.natAbs
  digits.take 1 ++ (if digits.length ≤ 1 then [] else '.' :: digits.drop 1) ++
    'e' :: (if exponent < 0 then '-' else '+') ::
      List.replicate (2 - written.length) '0' ++ written

/-- The text of a positive decimal.  Values from `10^-4` to below `10^16` are
positional and all others scientific. -/
def layout (decimal : Decimal) : List Char :=
  let digits := ((decimalDigits decimal.coefficient).reverse.dropWhile (· = '0')).reverse
  if -4 < decimal.scale && decimal.scale ≤ 16 then positional digits decimal.scale
  else scientific digits decimal.scale

end Decimal

/-- The text of a binary64 number: its shortest decimal, with a point or an
exponent so that it is no integer. -/
def Binary64.text : Binary64 → List Char
  | .nan => ['n', 'a', 'n']
  | .infinity negative => (if negative then ['-'] else []) ++ ['i', 'n', 'f']
  | .finite negative ordinal =>
      (if negative then ['-'] else []) ++
        if ordinal.val = 0 then ['0', '.', '0'] else (Decimal.shortest ordinal.val).layout

end VectorScene.Number
