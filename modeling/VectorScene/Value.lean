import VectorScene.Fault
import VectorScene.Number.Literal

/-!
# Scene values

A scene description may hold any value where a number is expected: no value, a
flag, a number, or a text.  The operations that use a value decide whether it
will do.
-/

namespace VectorScene

/-- A value in a scene description. -/
inductive Value where
  | absent
  | flag (value : Bool)
  | number (value : Number)
  | text (value : String)
  deriving DecidableEq

/-- The written form of a number. -/
def Number.written (number : Number) : Except Fault String :=
  match number.text? with
  | some text => .ok (String.ofList text)
  | none => .error .integerTooLong

namespace Value

/-- The number that a value is in arithmetic.  A flag counts as one or zero. -/
def operand : Value → Except Fault Number
  | .absent => .error .notNumeric
  | .flag value => .ok (.integer (if value then 1 else 0))
  | .number value => .ok value
  | .text _ => .error .notNumeric

/-- The written form of a value. -/
def written : Value → Except Fault String
  | .absent => .ok "None"
  | .flag value => .ok (if value then "True" else "False")
  | .number value => value.written
  | .text value => .ok value

/-- The form of a value in messages, where a text is quoted. -/
def shown : Value → Except Fault String
  | .text value => .ok (Text.quoted value)
  | value => value.written

/-- Whether a value switches something on: any value but none, false, zero and
the empty text. -/
def isOn : Value → Bool
  | .absent => false
  | .flag value => value
  | .number (.integer value) => value != 0
  | .number (.real value) => !value.isZero
  | .text value => !value.isEmpty

/-- The number that a text stands for.  Other values stand for themselves. -/
def toNumber : Value → Except Fault Value
  | .text value =>
      match Number.ofText? value.toList with
      | some found => .ok (.number found)
      | none => .error .notANumber
  | value => .ok value

end Value

end VectorScene
