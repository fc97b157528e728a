import VectorScene.Value

/-!
# Rows of points

A list of points has one row per point.  A well-formed row holds two values.
-/

namespace VectorScene

/-- A row of a list of points: the values of a point, or in a malformed list a
single value. -/
inductive Row where
  | single (value : Value)
  | several (values : List Value)
  deriving DecidableEq

namespace Row

/-- The values of a row. -/
def values : Row → List Value
  | .single value => [value]
  | .several values => values

/-- Whether two rows have one length, where a single value has none. -/
def sameShape : Row → Row → Bool
  | .single _, .single _ => true
  | .several left, .several right => left.length = right.length
  | _, _ => false

/-- The two values of a point.  A text stands for its characters. -/
def pair : Row → Except Fault (Value × Value)
  | .several [x, y] => .ok (x, y)
  | .several _ => .error .rowNotPair
  | .single (.text characters) =>
      match characters.toList with
      | [x, y] => .ok (.text (String.singleton x), .text (String.singleton y))
      | _ => .error .rowNotPair
  | .single _ => .error .rowNotList

/-- The row of a point with integer coordinates. -/
def ofPixels (point : Int × Int) : Row :=
  .several [.number (.integer point.1), .number (.integer point.2)]

/-- The written form of a point: its values with a comma between them. -/
def written (row : Row) : Except Fault String := do
  let (x, y) ← row.pair
  let textX ← x.written
  let textY ← y.written
  return textX ++ "," ++ textY

/-- The written form of a list of points, with a space between points. -/
def writtenList (rows : List Row) : Except Fault String := do
  let points ← rows.mapM written
  return String.intercalate " " points

end Row

end VectorScene
