import VectorScene.Value

/-!
# Pixels

A normalized coordinate runs from -1 to 1 along an axis and a pixel coordinate
from zero to the extent of the canvas.  `pixel` maps the first to the second in
binary64 arithmetic, or exactly where that overflows.  `normalized` maps back.
-/

namespace VectorScene.Canvas

open VectorScene.Number

/-- Round a binary64 number to an integer, which infinities and NaN have not. -/
def roundReal : Binary64 → Except Fault Int
  | .finite negative ordinal => .ok (nearestEven (Binary64.finite negative ordinal).toRat)
  | .infinity _ => .error .infinite
  | .nan => .error .notANumber

/-- The exact value of a number. -/
def exactValue : Number → Except Fault Rat
  | .integer value => .ok value
  | .real (.finite negative ordinal) => .ok (Binary64.finite negative ordinal).toRat
  | .real (.infinity _) => .error .infinite
  | .real .nan => .error .notANumber

/-- A number as a binary64 number, unless it is an integer too large for one. -/
def toBinary64? : Number → Option Binary64
  | .integer value => Binary64.ofRat? value
  | .real value => some value

/-- The position of a coordinate as a fraction of the extent, in binary64
arithmetic. -/
def fraction? : Number → Option Binary64
  | .integer value => Binary64.ofRat? ((value + 1) / 2)
  | .real value => some ((value + .one) / .two)

/-- The pixel of a coordinate in binary64 arithmetic, before rounding.  There is
none when an integer is too large. -/
def binaryPixel? (coordinate extent : Number) : Option Binary64 :=
  (fraction? coordinate).bind fun fraction =>
    (toBinary64? extent).map fun length => length * fraction

/-- The pixel of a coordinate in exact arithmetic.  A real extent is multiplied
in binary64 arithmetic nevertheless. -/
def exactPixel (coordinate extent : Number) : Except Fault Int :=
  (exactValue coordinate).bind fun value =>
    let fraction := (value + 1) / 2
    match extent with
    | .integer length => .ok (nearestEven (fraction * length))
    | .real length =>
        match Binary64.ofRat? fraction with
        | some rounded => roundReal (rounded * length)
        | none => .error .beyondBinary64

/-- The pixel of a normalized coordinate.  A tie goes to the even pixel. -/
def pixel (coordinate extent : Number) : Except Fault Int :=
  match binaryPixel? coordinate extent with
  | some (.finite negative ordinal) => roundReal (.finite negative ordinal)
  | _ => exactPixel coordinate extent

/-- The pixel of a scene value. -/
def valuePixel (coordinate extent : Value) : Except Fault Int :=
  coordinate.operand.bind fun coordinate =>
    extent.operand.bind fun extent => pixel coordinate extent

/-! ## Back to normalized coordinates -/

/-- Whether a number is zero or below. -/
def atMostZero : Number → Bool
  | .integer value => value ≤ 0
  | .real value => value.atMostZero

/-- Twice the pixel over the extent, in binary64 arithmetic.  The quotient of two
integers is rounded once. -/
def doubledRatio? : Number → Number → Option Binary64
  | .integer position, .integer extent => Binary64.ofRat? (2 * position / extent)
  | .integer position, .real extent =>
      (Binary64.ofRat? (2 * position)).map fun doubled => doubled / extent
  | .real position, extent =>
      (toBinary64? extent).map fun length => Binary64.two * position / length

/-- The normalized coordinate of a pixel on a positive extent. -/
def normalizedOn (position extent : Number) : Except Fault Binary64 :=
  match doubledRatio? position extent with
  | some ratio => .ok (ratio - .one)
  | none => .error .beyondBinary64

/-- The normalized coordinate of a pixel given as scene values. -/
def normalized (position extent : Value) : Except Fault Binary64 :=
  extent.operand.bind fun length =>
    if atMostZero length then
      extent.written.bind fun text => .error (.extentNotPositive text)
    else
      position.operand.bind fun position => normalizedOn position length

end VectorScene.Canvas
