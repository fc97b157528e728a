import VectorScene.Canvas.Pixel
import VectorScene.Markup.Document
import VectorScene.Points.List
import VectorScene.Run
import VectorScene.Scene.Command
import VectorScene.Settings
import VectorScene.Stroke

/-!
# Reading scenes

A scene is read from the elements of a document, one pass for each kind of shape.
An element that cannot be read is skipped with a warning, or ends a strict
reading.
-/

namespace VectorScene.Reading

open VectorScene.Markup VectorScene.Text

/-- A shape as it is read: numbers, points and a color. -/
abbrev ReadShape := Shape Number (List (Number × Number)) Int

/-! ## Elements -/

/-- Read a finite number from an attribute. -/
def number (node : Node String) (name : String) : Except Defect Number :=
  match node.get? name with
  | none => .error (.missingAttribute name)
  | some text =>
      match Number.ofText? (trim text.toList) with
      | some value =>
          if value.isFinite then .ok value else .error (.invalidAttribute name text)
      | none => .error (.invalidAttribute name text)

/-- Read a list of points from an attribute. -/
def points (node : Node String) (name : String) : Except Defect (List (Number × Number)) :=
  match node.get? name with
  | none => .error (.missingAttribute name)
  | some text =>
      if (Points.cut text.toList).wellFormed then
        match Points.parse text.toList with
        | .ok vertices => .ok vertices
        | .error _ => .error (.invalidAttribute name text)
      else .error (.invalidAttribute name text)

/-- Read a shape of a kind: its geometry in order, then its color. -/
def shape (kind : Kind) (node : Node String) : Except Defect ReadShape :=
  kind.template.mapM (fun _ name => number node name) (points node)
    (fun _ => Stroke.read (node.get? "style"))

/-- Normalize a coordinate along an axis of a canvas. -/
def normalizeScalar (canvas : Canvas) (axis : Axis) (position : Number) : Except Fault Number :=
  (Canvas.normalizedOn position (.integer (canvas.extent axis))).map .real

/-- Normalize the coordinates of a shape in order. -/
def normalize (canvas : Canvas) (pixels : ReadShape) : Except Fault ReadShape :=
  pixels.mapM (normalizeScalar canvas)
    (fun vertices => vertices.mapM fun (x, y) => do
      let normalizedX ← normalizeScalar canvas .x x
      let normalizedY ← normalizeScalar canvas .y y
      return (normalizedX, normalizedY))
    .ok

/-! ## Documents -/

/-- The elements to be read, pass by pass, each pass in document order. -/
def candidates (root : Node String) : List (Kind × Node String) :=
  Kind.all.flatMap fun kind =>
    (root.preorder.filter fun node => node.tag? = some kind.tag).map (kind, ·)

/-- The first group in document order with an identifier. -/
def group? (id : String) (root : Node String) : Option (Node String) :=
  root.preorder.find? fun node => node.tag? = some "g" && node.get? "id" = some id

/-- A shape as the settings ask for it: in pixels, or normalized. -/
def finish (settings : Settings) (pixels : ReadShape) : Except Fault ReadShape :=
  if settings.normalize.isOn then normalize settings.canvas pixels else .ok pixels

/-- Read elements in order. -/
def shapes (settings : Settings) : List (Kind × Node String) → Run (List ReadShape)
  | [] => return []
  | (kind, node) :: rest =>
      match shape kind node with
      | .ok pixels => do
          let finished ← Run.ofExcept (finish settings pixels)
          let others ← shapes settings rest
          return finished :: others
      | .error cause =>
          if settings.strict.isOn then Run.fail (.defect cause)
          else do
            Run.warn (.skipped kind cause)
            shapes settings rest

/-- Read a scene from a tree, or from one of its groups. -/
def ofTree (settings : Settings) (groupId : Option String) (tree : Node String) :
    Run (List ReadShape) :=
  let root := tree.strip
  match groupId with
  | none => shapes settings (candidates root)
  | some id =>
      match group? id root with
      | some group => shapes settings (candidates group)
      | none =>
          if settings.strict.isOn then Run.fail (.defect (.missingGroup id))
          else do
            Run.warn (.missingGroup id)
            return []

/-- Read a scene from a text. -/
def ofText (settings : Settings) (groupId : Option String) (text : String) :
    Run (List ReadShape) := do
  let tree ← Run.ofExcept (Node.parse text)
  ofTree settings groupId tree

/-- Read a scene from the bytes of a file. -/
def ofFile (settings : Settings) (groupId : Option String) (content : ByteArray) :
    Run (List ReadShape) := do
  let tree ← Run.ofExcept (Node.read content)
  ofTree settings groupId tree

/-- A file that holds a text is read like the text. -/
@[simp] theorem ofFile_toUTF8 (settings : Settings) (groupId : Option String) (text : String) :
    ofFile settings groupId text.toUTF8 = ofText settings groupId text := by
  rw [ofFile, ofText, Node.read_toUTF8]

/-! ## Back to scenes -/

/-- A shape that was read, as a shape of a scene. -/
def toScene : ReadShape → SceneShape
  | .line x1 y1 x2 y2 color =>
      .line (.number x1) (.number y1) (.number x2) (.number y2) (.number (.integer color))
  | .circle cx cy r color =>
      .circle (.number cx) (.number cy) (.number r) (.number (.integer color))
  | .rect x y width height color =>
      .rect (.number x) (.number y) (.number width) (.number height) (.number (.integer color))
  | .polygon vertices color =>
      .polygon (vertices.map fun (x, y) => .several [.number x, .number y])
        (.number (.integer color))
  | .ellipse cx cy rx ry color =>
      .ellipse (.number cx) (.number cy) (.number rx) (.number ry) (.number (.integer color))

end VectorScene.Reading
