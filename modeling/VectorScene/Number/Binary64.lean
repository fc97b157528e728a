import VectorScene.Number.Rounding

/-!
# Binary64 numbers

The binary floating-point format with 53 significant bits, computed exactly.
The finite magnitudes are numbered in increasing order from zero, so the
magnitude that follows `n` is `n + 1` across subnormals, normals and powers of
two alike.  Every operation is the exact rational result rounded once, to the
nearest value and to the even one on a tie.
-/

namespace VectorScene.Number

/-- A power of two with an integer exponent. -/
def powerOfTwo (exponent : Int) : Rat :=
  if 0 ≤ exponent then (Nat.pow 2 exponent.toNat : Nat) else mkRat 1 (Nat.pow 2 (-exponent).toNat)

/-- How many magnitudes share one exponent: `2⁵²`. -/
abbrev binade : Nat := 4503599627370496

/-- How many finite magnitudes there are. -/
abbrev magnitudeCount : Nat := 2047 * binade

/-- A binary64 value.  A finite one is a sign and the position of its magnitude
among all finite magnitudes. -/
inductive Binary64 where
  | finite (negative : Bool) (ordinal : Fin magnitudeCount)
  | infinity (negative : Bool)
  | nan
  deriving DecidableEq

namespace Binary64

/-- The exponent of the last binary place of the magnitude at a position. -/
def lastPlace (ordinal : Nat) : Int :=
  max (ordinal / binade : Nat) 1 - 1075

/-- The integer that a magnitude is in units of its last place. -/
def significand (ordinal : Nat) : Nat :=
  if ordinal < binade then ordinal else binade + ordinal % binade

/-- The magnitude at a position. -/
def magnitude (ordinal : Nat) : Rat :=
  significand ordinal * powerOfTwo (lastPlace ordinal)

/-- The exact value of a finite number.  The others have none and get zero. -/
def toRat : Binary64 → Rat
  | .finite false ordinal => magnitude ordinal
  | .finite true ordinal => -magnitude ordinal
  | .infinity _ => 0
  | .nan => 0

/-- Whether a value is neither infinite nor NaN. -/
def isFinite : Binary64 → Bool
  | .finite _ _ => true
  | .infinity _ => false
  | .nan => false

/-! ## Rounding -/

/-- The largest integer whose power of two does not exceed a positive rational. -/
def binaryLog (value : Rat) : Int :=
  let estimate := (value.num.natAbs.log2 : Int) - value.den.log2
  if powerOfTwo estimate ≤ value then estimate else estimate - 1

/-- The exponent of the last binary place that the format has at a positive
rational: 53 significant bits, but no place below the least magnitude. -/
def placeAt (value : Rat) : Int :=
  max (binaryLog value - 52) (-1074)

/-- The position of the magnitude nearest to a nonnegative rational, as if
there were no largest one. -/
def nearestOrdinal (value : Rat) : Nat :=
  if value ≤ 0 then 0
  else
    let place := placeAt value
    (place + 1074).toNat * binade + (nearestEven (value / powerOfTwo place)).toNat

/-- The value nearest to a magnitude with a sign, infinite past the largest one. -/
def ofMagnitude (negative : Bool) (value : Rat) : Binary64 :=
  if inRange : nearestOrdinal value < magnitudeCount then
    .finite negative ⟨nearestOrdinal value, inRange⟩
  else
    .infinity negative

/-- The value nearest to a rational. -/
def ofRat (value : Rat) : Binary64 :=
  if value < 0 then ofMagnitude true (-value) else ofMagnitude false value

/-- The value nearest to a rational, unless that is infinite. -/
def ofRat? (value : Rat) : Option Binary64 :=
  let nearest := ofRat value
  if nearest.isFinite then some nearest else none

/-- Zero with a sign. -/
def signedZero (negative : Bool) : Binary64 :=
  .finite negative 0

/-! ## Arithmetic -/

/-- Whether the sign of a value is negative, that of a zero included. -/
def isNegative : Binary64 → Bool
  | .finite negative _ => negative
  | .infinity negative => negative
  | .nan => false

/-- Whether a value is zero, of either sign. -/
def isZero : Binary64 → Bool
  | .finite _ ordinal => ordinal.val = 0
  | .infinity _ => false
  | .nan => false

/-- The sum.  An exact sum of zero is negative only when both terms are. -/
def add : Binary64 → Binary64 → Binary64
  | .nan, _ => .nan
  | _, .nan => .nan
  | .infinity left, .infinity right => if left = right then .infinity left else .nan
  | .infinity left, .finite _ _ => .infinity left
  | .finite _ _, .infinity right => .infinity right
  | .finite left leftOrdinal, .finite right rightOrdinal =>
      let sum := (Binary64.finite left leftOrdinal).toRat +
        (Binary64.finite right rightOrdinal).toRat
      if sum = 0 then signedZero (left && right) else ofRat sum

/-- The opposite value. -/
def neg : Binary64 → Binary64
  | .finite negative ordinal => .finite (!negative) ordinal
  | .infinity negative => .infinity (!negative)
  | .nan => .nan

/-- The difference. -/
def sub (left right : Binary64) : Binary64 :=
  left.add right.neg

/-- The product.  Its sign is negative when exactly one factor is. -/
def mul (left right : Binary64) : Binary64 :=
  let negative := left.isNegative != right.isNegative
  match left, right with
  | .nan, _ => .nan
  | _, .nan => .nan
  | .finite _ leftOrdinal, .finite _ rightOrdinal =>
      ofMagnitude negative (magnitude leftOrdinal * magnitude rightOrdinal)
  | _, _ => if left.isZero || right.isZero then .nan else .infinity negative

/-- The quotient.  Its sign is negative when exactly one operand is. -/
def div (left right : Binary64) : Binary64 :=
  let negative := left.isNegative != right.isNegative
  match left, right with
  | .nan, _ => .nan
  | _, .nan => .nan
  | .infinity _, .infinity _ => .nan
  | .infinity _, .finite _ _ => .infinity negative
  | .finite _ _, .infinity _ => signedZero negative
  | .finite _ leftOrdinal, .finite _ rightOrdinal =>
      if right.isZero then
        if left.isZero then .nan else .infinity negative
      else
        ofMagnitude negative (magnitude leftOrdinal / magnitude rightOrdinal)

instance : Add Binary64 := ⟨add⟩
instance : Sub Binary64 := ⟨sub⟩
instance : Mul Binary64 := ⟨mul⟩
instance : Div Binary64 := ⟨div⟩
instance : Neg Binary64 := ⟨neg⟩

/-- Whether a value is zero or below.  NaN is not. -/
def atMostZero : Binary64 → Bool
  | .finite negative ordinal => negative || ordinal.val = 0
  | .infinity negative => negative
  | .nan => false

/-- The number one. -/
def one : Binary64 := ofRat 1

/-- The number two. -/
def two : Binary64 := ofRat 2

end Binary64

end VectorScene.Number
