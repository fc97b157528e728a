import VectorScene.Markup.Node
import VectorScene.Points.Row
import VectorScene.Scene.Shape

/-!
# Elements of drawings

The elements that drawings are made of: the root, groups, and one element per
shape.  Additional attributes come after those that an element has anyway.
-/

namespace VectorScene.Drawing

open VectorScene.Markup

variable {α : Type}

/-- An element without text. -/
def element (tag : String) (attributes : List (String × α)) (children : List (Node α)) : Node α :=
  .element tag (Attributes.ofList attributes) none children none

/-- The namespaces that the root declares. -/
def rootNamespaces : List (String × String) :=
  [("xmlns", "http://www.w3.org/2000/svg"), ("xmlns:xlink", "http://www.w3.org/1999/xlink")]

/-- The root element of a drawing. -/
def root (attributes : List (String × String)) (children : List (Node String)) : Node String :=
  element "svg" (rootNamespaces ++ attributes) children

/-- A group. -/
def group (attributes : List (String × String)) (children : List (Node String)) : Node String :=
  element "g" attributes children

/-- The element of a shape of some kind with the given geometry. -/
def shape (kind : Kind) (geometry : List String) (attributes : List (String × String)) :
    Node String :=
  element kind.tag (kind.geometry.zip geometry ++ attributes) []

/-- The element of a shape whose geometry is given by values in order.  Geometry
that they leave out is given by additional attributes, and geometry that they give
must not be given by one as well. -/
def shapeOfValues (kind : Kind) (values : List Value) (attributes : List (String × String)) :
    Except Fault (Node String) :=
  let given := kind.geometry.take values.length
  let missing := kind.geometry.drop values.length
  if kind.geometry.length < values.length then .error .wrongValueCount
  else if attributes.any fun pair => given.contains pair.1 then .error .attributeTaken
  else
    match missing.mapM (Attributes.ofList attributes).get? with
    | none => .error .wrongValueCount
    | some others =>
        (values.mapM Value.written).map fun texts =>
          shape kind (texts ++ others) (attributes.filter fun pair => !missing.contains pair.1)

/-- The element of a polygon with the given vertices.  The name `xy` stands for
the vertices themselves, so no additional attribute has it. -/
def polygonOfRows (rows : List Row) (attributes : List (String × String)) :
    Except Fault (Node String) :=
  if attributes.any fun pair => pair.1 = "xy" then .error .attributeTaken
  else (Row.writtenList rows).map fun points => shape .polygon [points] attributes

end VectorScene.Drawing
