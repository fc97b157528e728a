import VectorScene.Canvas.Size

/-!
# Shapes

The five kinds of shapes.  A shape is generic in what its scalar fields, its
vertices and its color are, so that one traversal serves to draw a shape, to read
one from an element, and to change its coordinates.
-/

namespace VectorScene

/-- The kinds of shapes. -/
inductive Kind where
  | line
  | circle
  | polygon
  | rect
  | ellipse
  deriving DecidableEq

namespace Kind

/-- All kinds in the order in which they are read from a document. -/
def all : List Kind :=
  [.line, .circle, .polygon, .rect, .ellipse]

/-- The tag of the elements of a kind. -/
def tag : Kind → String
  | .line => "line"
  | .circle => "circle"
  | .polygon => "polygon"
  | .rect => "rect"
  | .ellipse => "ellipse"

/-- The attributes that give the geometry of a kind, in order. -/
def geometry : Kind → List String
  | .line => ["x1", "y1", "x2", "y2"]
  | .circle => ["cx", "cy", "r"]
  | .polygon => ["points"]
  | .rect => ["x", "y", "width", "height"]
  | .ellipse => ["cx", "cy", "rx", "ry"]

end Kind

/-- A shape with scalars in `σ`, lists of vertices in `ν` and colors in `κ`. -/
inductive Shape (σ ν κ : Type) where
  | line (x1 y1 x2 y2 : σ) (color : κ)
  | circle (cx cy r : σ) (color : κ)
  | rect (x y width height : σ) (color : κ)
  | polygon (vertices : ν) (color : κ)
  | ellipse (cx cy rx ry : σ) (color : κ)
  deriving DecidableEq

namespace Shape

variable {σ σ' ν ν' κ κ' : Type}

/-- The kind of a shape. -/
def kind : Shape σ ν κ → Kind
  | .line .. => .line
  | .circle .. => .circle
  | .rect .. => .rect
  | .polygon .. => .polygon
  | .ellipse .. => .ellipse

/-- Apply effects to the fields of a shape in order, the color last.  A scalar
goes with its axis, where the radius of a circle is measured along `x`. -/
def mapM {m : Type → Type} [Monad m] (scalar : Axis → σ → m σ') (vertices : ν → m ν')
    (color : κ → m κ') : Shape σ ν κ → m (Shape σ' ν' κ')
  | .line x1 y1 x2 y2 c => do
      let x1 ← scalar .x x1
      let y1 ← scalar .y y1
      let x2 ← scalar .x x2
      let y2 ← scalar .y y2
      return .line x1 y1 x2 y2 (← color c)
  | .circle cx cy r c => do
      let cx ← scalar .x cx
      let cy ← scalar .y cy
      let r ← scalar .x r
      return .circle cx cy r (← color c)
  | .rect x y width height c => do
      let x ← scalar .x x
      let y ← scalar .y y
      let width ← scalar .x width
      let height ← scalar .y height
      return .rect x y width height (← color c)
  | .polygon points c => do
      let points ← vertices points
      return .polygon points (← color c)
  | .ellipse cx cy rx ry c => do
      let cx ← scalar .x cx
      let cy ← scalar .y cy
      let rx ← scalar .x rx
      let ry ← scalar .y ry
      return .ellipse cx cy rx ry (← color c)

/-- The geometry of a shape whose fields are texts, in the order of the
attributes of its kind. -/
def geometryTexts : Shape String String κ → List String
  | .line x1 y1 x2 y2 _ => [x1, y1, x2, y2]
  | .circle cx cy r _ => [cx, cy, r]
  | .rect x y width height _ => [x, y, width, height]
  | .polygon points _ => [points]
  | .ellipse cx cy rx ry _ => [cx, cy, rx, ry]

/-- The color of a shape. -/
def color : Shape σ ν κ → κ
  | .line _ _ _ _ color => color
  | .circle _ _ _ color => color
  | .rect _ _ _ _ color => color
  | .polygon _ color => color
  | .ellipse _ _ _ _ color => color

end Shape

/-- The shape of a kind whose fields are the names of their attributes. -/
def Kind.template : Kind → Shape String String Unit
  | .line => .line "x1" "y1" "x2" "y2" ()
  | .circle => .circle "cx" "cy" "r" ()
  | .polygon => .polygon "points" ()
  | .rect => .rect "x" "y" "width" "height" ()
  | .ellipse => .ellipse "cx" "cy" "rx" "ry" ()

end VectorScene
