import VectorScene.Canvas.Vertices
import VectorScene.Drawing.Element
import VectorScene.Markup.Writer
import VectorScene.Run
import VectorScene.Scene.Command
import VectorScene.Settings
import VectorScene.Stroke

/-!
# Drawing scenes

A scene is drawn as one group of elements, one for each shape, in drawing order.
Things that are no commands are skipped with a warning.
-/

namespace VectorScene.Drawing

open VectorScene.Markup

/-- The extent of a canvas as a scene value. -/
def extentValue (canvas : Canvas) (axis : Axis) : Value :=
  .number (.integer (canvas.extent axis))

/-- A shape in pixels with its style. -/
abbrev PixelShape := Shape Int (List (Int × Int)) String

/-- Map a shape to pixels: its coordinates in order, then its color. -/
def pixelShape (canvas : Canvas) (scene : SceneShape) : Except Fault PixelShape :=
  scene.mapM
    (fun axis value => Canvas.valuePixel value (extentValue canvas axis))
    (fun rows => Canvas.pixels rows (extentValue canvas .x) (extentValue canvas .y))
    Stroke.style

/-- The texts of a shape in pixels. -/
def shapeTexts (pixels : PixelShape) : Except Fault (Shape String String String) :=
  pixels.mapM
    (fun _ position => (Number.integer position).written)
    (fun points => Row.writtenList (points.map Row.ofPixels))
    .ok

/-- The element of a shape. -/
def shapeNode (canvas : Canvas) (scene : SceneShape) : Except Fault (Node String) :=
  (pixelShape canvas scene).bind fun pixels =>
    (shapeTexts pixels).map fun texts =>
      shape texts.kind texts.geometryTexts [("style", texts.color)]

section

variable {Thing : Type} [Shown Thing]

/-- The elements of leaves in order. -/
def leafNodes (canvas : Canvas) : List (Leaf Thing) → Run (List (Node String))
  | [] => return []
  | .shape scene :: rest => do
      let node ← Run.ofExcept (shapeNode canvas scene)
      let nodes ← leafNodes canvas rest
      return node :: nodes
  | .foreign thing :: rest => do
      let shown ← Run.ofExcept (Shown.shown thing)
      Run.warn (.unsupported shown)
      leafNodes canvas rest

end

/-- A drawing: the size of its root as texts, the identifier of its only group,
which may be any value, and the shapes in the group. -/
structure Document where
  width : String
  height : String
  groupId : Value
  shapes : List (Node String)
  deriving DecidableEq

/-- Draw a scene. -/
def ofScene {Thing : Type} [Shown Thing] (settings : Settings) (scene : List (Command Thing)) :
    Run Document := do
  let shapes ← leafNodes settings.canvas (flatten scene)
  let width ← Run.ofExcept (Number.integer settings.canvas.width).written
  let height ← Run.ofExcept (Number.integer settings.canvas.height).written
  return { width, height, groupId := settings.groupId, shapes }

namespace Document

/-- The attributes of the root of a drawing. -/
def size (document : Document) : List (String × String) :=
  [("width", document.width), ("height", document.height)]

/-- The tree of a drawing around its shapes. -/
def frame (document : Document) (groupAttributes : List (String × String)) : Node String :=
  root document.size [group groupAttributes document.shapes]

/-- The tree of a drawing, with any value as the identifier of the group. -/
def tree (document : Document) : Node Value :=
  element "svg"
    ((rootNamespaces ++ document.size).map fun pair => (pair.1, .text pair.2))
    [element "g" [("id", document.groupId)] (document.shapes.map (Node.mapValues .text))]

/-- The tree of a drawing as readers see it.  An identifier that is no text is no
attribute to them. -/
def readable (document : Document) : Node String :=
  document.frame
    (match document.groupId with
      | .text id => [("id", id)]
      | _ => [])

/-- The text of a drawing.  The identifier of the group must be a text. -/
def render (document : Document) (indent : Option Indent) : Except Fault String :=
  match document.groupId with
  | .text id => (document.frame [("id", id)]).render indent
  | _ => .error .attributeNotText

end Document

/-- Draw a scene as a text. -/
def render {Thing : Type} [Shown Thing] (settings : Settings) (scene : List (Command Thing))
    (indent : Option Indent) : Run String := do
  let document ← ofScene settings scene
  Run.ofExcept (document.render indent)

end VectorScene.Drawing
