import VectorScene.Canvas.Size

/-!
# Settings

The settings of a conversion are made from a request.  What the request leaves
out is taken from the defaults, which may hold any value and are checked only
then.
-/

namespace VectorScene

/-- The settings of a conversion: the canvas, whether a defect ends a reading,
whether coordinates are read as normalized ones, and the group that is drawn. -/
structure Settings where
  canvas : Canvas
  strict : Value
  normalize : Value
  groupId : Value
  deriving DecidableEq

/-- The values that requests leave out. -/
structure Defaults where
  width : Value
  height : Value
  strict : Value
  groupId : Value
  deriving DecidableEq

/-- The defaults before any is changed. -/
def Defaults.initial : Defaults where
  width := .number (.integer 400)
  height := .number (.integer 400)
  strict := .flag false
  groupId := .text "main_group"

/-- A request for settings.  A value that is absent is left out. -/
structure Request where
  width : Value
  height : Value
  strict : Value
  normalize : Value
  deriving DecidableEq

/-- A value, or another one in its absence. -/
def Value.orElse (value fallback : Value) : Value :=
  match value with
  | .absent => fallback
  | value => value

/-- The settings that a request asks for. -/
def Settings.make (defaults : Defaults) (request : Request) : Except Fault Settings :=
  (Canvas.ofValues (request.width.orElse defaults.width)
    (request.height.orElse defaults.height)).map fun canvas =>
      { canvas
        strict := request.strict.orElse defaults.strict
        normalize := request.normalize
        groupId := defaults.groupId }

end VectorScene
