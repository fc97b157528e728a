import VectorScene.Canvas.Pixel
import VectorScene.Points.Row

/-!
# Vertices

A list of points is mapped to pixels as a whole.  When every image fits 64 bits
the values are regrouped two by two and mapped in binary64 arithmetic.
Otherwise every point is mapped on its own.
-/

namespace VectorScene

open VectorScene.Number

namespace Canvas

/-- All values of a list of rows of one shape. -/
def regroup (rows : List Row) : Except Fault (List Value) :=
  match rows with
  | [] => .ok []
  | first :: rest =>
      if rest.all first.sameShape then .ok (rows.flatMap Row.values) else .error .unevenRows

/-- A number as a binary64 number. -/
def toBinary64 (number : Number) : Except Fault Binary64 :=
  match toBinary64? number with
  | some value => .ok value
  | none => .error .beyondBinary64

/-- A coordinate as a binary64 number: NaN where there is none, and the real
literal that a text holds. -/
def coordinateToBinary64 : Value → Except Fault Binary64
  | .absent => .ok .nan
  | .text text =>
      match realOfText? text.toList with
      | some value => .ok value
      | none => .error .notANumber
  | value => value.operand.bind toBinary64

/-- The pixel of a binary64 coordinate, if it fits 64 bits. -/
def smallPixel? (extent coordinate : Binary64) : Option Int :=
  match roundReal (extent * ((coordinate + .one) / .two)) with
  | .ok position => if position.natAbs < 9223372036854775808 then some position else none
  | .error _ => none

/-- Pair up a list and map its members by turns.  The last member of an odd list
is left out. -/
def pairUp (onX onY : Binary64 → Option Int) : List Binary64 → Option (List (Int × Int))
  | x :: y :: rest =>
      (onX x).bind fun x => (onY y).bind fun y => (pairUp onX onY rest).map ((x, y) :: ·)
  | _ => some []

/-- The pixels of all points on their own, row by row and x before y. -/
def pixelsByRow (rows : List Row) (width height : Value) : Except Fault (List (Int × Int)) :=
  rows.mapM fun row => do
    let (x, y) ← row.pair
    let pixelX ← valuePixel x width
    let pixelY ← valuePixel y height
    return (pixelX, pixelY)

/-- The pixels of points.  A value too large for a binary64 number, or an image
beyond 64 bits, has all points mapped on their own. -/
def pixels (rows : List Row) (width height : Value) : Except Fault (List (Int × Int)) := do
  let values ← regroup rows
  match values.mapM coordinateToBinary64 with
  | .error .beyondBinary64 => pixelsByRow rows width height
  | .error fault => .error fault
  | .ok reals =>
      if reals.length % 2 = 1 then .error .unevenRows
      else if reals.isEmpty then .ok []
      else do
        let realWidth ← width.operand.bind toBinary64
        let realHeight ← height.operand.bind toBinary64
        match pairUp (smallPixel? realWidth) (smallPixel? realHeight) reals with
        | some points => .ok points
        | none => pixelsByRow rows width height

end Canvas

end VectorScene
