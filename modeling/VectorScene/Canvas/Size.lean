import VectorScene.Value

/-!
# The canvas

A canvas has a width and a height in pixels, both of them positive integers of
any size.
-/

namespace VectorScene

/-- The size of a canvas in pixels. -/
structure Canvas where
  width : Int
  height : Int
  width_pos : 0 < width
  height_pos : 0 < height
  deriving DecidableEq

/-- An axis of the canvas. -/
inductive Axis where
  | x
  | y
  deriving DecidableEq

/-- The extent of the canvas along an axis. -/
def Canvas.extent (canvas : Canvas) : Axis → Int
  | .x => canvas.width
  | .y => canvas.height

/-- A positive integer with the proof that it is one. -/
abbrev PositiveInt := { size : Int // 0 < size }

/-- The size that a value gives to a side.  It must be a positive integer, and a
flag is none. -/
def Value.size (side : Side) (value : Value) : Except Fault PositiveInt :=
  let refuse := value.shown.bind fun text => .error (.sizeNotPositive side text)
  match value with
  | .number (.integer size) => if positive : 0 < size then .ok ⟨size, positive⟩ else refuse
  | _ => refuse

/-- The canvas of two values.  The width is checked first. -/
def Canvas.ofValues (width height : Value) : Except Fault Canvas := do
  let ⟨width, width_pos⟩ ← width.size .width
  let ⟨height, height_pos⟩ ← height.size .height
  return ⟨width, height, width_pos, height_pos⟩

end VectorScene
