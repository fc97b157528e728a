import VectorScene.Text.Quoted

/-!
# Faults

Every way in which an operation can fail, as a cause.  A `Defect` is a cause
that lies in one element of a document: a reader may report it and go on.
-/

namespace VectorScene

/-- Why an element, or the group to read, cannot be read. -/
inductive Defect where
  | colorNotFound (style : Option String)
  | missingAttribute (name : String)
  | invalidAttribute (name value : String)
  | missingGroup (id : String)
  deriving DecidableEq

/-- What a defect says about itself. -/
def Defect.message : Defect → String
  | .colorNotFound style =>
      "No stroke color in style: " ++ (style.map Text.quoted).getD "None"
  | .missingAttribute name => "Missing attribute: " ++ name
  | .invalidAttribute name value =>
      "Invalid attribute " ++ name ++ ": " ++ Text.quoted value
  | .missingGroup id => "No <g> with id " ++ Text.quoted id ++ " found"

/-- A side of the canvas. -/
inductive Side where
  | width
  | height
  deriving DecidableEq

/-- The name of a side. -/
def Side.name : Side → String
  | .width => "width"
  | .height => "height"

/-- Why an operation has no result. -/
inductive Fault where
  /-- An element or a group cannot be read. -/
  | defect (cause : Defect)
  /-- A canvas extent, shown by its text, is zero or below. -/
  | extentNotPositive (extent : String)
  /-- A canvas size, shown by its text, is no positive integer. -/
  | sizeNotPositive (side : Side) (value : String)
  /-- An integer has more digits than are written. -/
  | integerTooLong
  /-- A text or a NaN stands where a number is needed. -/
  | notANumber
  /-- The rows of a list of points do not have one length, or do not pair up. -/
  | unevenRows
  /-- A row of a list of points does not hold two values. -/
  | rowNotPair
  /-- A qualified name opens a namespace and does not close it. -/
  | unclosedName
  /-- An operand of an arithmetic operation has no numeric value. -/
  | notNumeric
  /-- A single value stands where a row of values is needed. -/
  | rowNotList
  /-- A color is no integer. -/
  | colorNotInteger
  /-- An attribute to be written holds no text. -/
  | attributeNotText
  /-- A shape is given more or fewer values than its geometry has. -/
  | wrongValueCount
  /-- An additional attribute has the name of a value that is given already. -/
  | attributeTaken
  /-- A number is too large for a binary64 number. -/
  | beyondBinary64
  /-- An infinity is to be rounded to an integer. -/
  | infinite
  /-- A text is no well-formed document. -/
  | malformedDocument
  /-- The size of a canvas is fixed when it is made. -/
  | fixedSize (side : Side)
  /-- No file of this name was written. -/
  | unknownFile (name : String)
  deriving DecidableEq

/-- The text of the faults that carry one. -/
def Fault.message? : Fault → Option String
  | .defect cause => some cause.message
  | .extentNotPositive extent => some ("Extent must be positive: " ++ extent)
  | .sizeNotPositive side value =>
      some (side.name ++ " must be a positive integer: " ++ value)
  | _ => none

end VectorScene
