import VectorScene.Points.Coordinate
import VectorScene.Fault

/-!
# Lists of points

`parse` pairs up the coordinates of a text, whatever stands between them.
`wellFormed` says whether only separators stand there and none is left over.
-/

namespace VectorScene.Points

open VectorScene.Text

/-- Pair up a list.  The last member of an odd list is left out. -/
def pairs {α : Type} : List α → List (α × α)
  | x :: y :: rest => (x, y) :: pairs rest
  | _ => []

/-- The number that a coordinate stands for. -/
def value (token : List Char) : Except Fault Number :=
  match Number.ofText? token with
  | some number => .ok number
  | none => .error .notANumber

/-- The points that a text lists. -/
def parse (text : List Char) : Except Fault (List (Number × Number)) :=
  (pairs (cut text).tokens).mapM fun (x, y) => do
    let numberX ← value x
    let numberY ← value y
    return (numberX, numberY)

/-- Whether a gap may stand between two coordinates: white space with at most
one comma. -/
def isSeparator (gap : List Char) : Bool :=
  match gap.dropWhile isBlank with
  | ',' :: rest => allBlank rest
  | rest => rest.isEmpty

/-- Whether a cut text has blank ends, separators between its coordinates and an
even number of them. -/
def Cut.wellFormed (cut : Cut) : Bool :=
  allBlank cut.lead && allBlank (cut.gaps.getLastD []) &&
    cut.gaps.dropLast.all isSeparator && cut.parts.length % 2 = 0

end VectorScene.Points
