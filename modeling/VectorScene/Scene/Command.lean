import VectorScene.Points.Row
import VectorScene.Scene.Shape

/-!
# Scenes

A scene is a list of commands: shapes, groups that glow, and things that are no
commands.  Groups nest to any depth.  Drawing order is the order of the leaves.
-/

namespace VectorScene

/-- A shape as a scene describes it, with any values in its fields. -/
abbrev SceneShape := Shape Value (List Row) Value

/-! ## Things that are no commands -/

/-- Things of any kind that a scene may hold though they are no commands.  All that a
drawing asks of such a thing is its form in messages, which it may fail to give. -/
class Shown (Thing : Type) where
  /-- The form of a thing in messages. -/
  shown : Thing → Except Fault String

/-- Things that are known as data: a value or a tuple of values. -/
inductive Foreign where
  | value (value : Value)
  | tuple (values : List Value)
  deriving DecidableEq

/-- The form of a value or a tuple in messages. -/
def Foreign.shown : Foreign → Except Fault String
  | .value single => single.shown
  | .tuple [single] => do return "(" ++ (← single.shown) ++ ",)"
  | .tuple values => do
      let texts ← values.mapM Value.shown
      return "(" ++ String.intercalate ", " texts ++ ")"

instance : Shown Foreign :=
  ⟨Foreign.shown⟩

/-- A thing of which nothing is known but the outcome of showing it. -/
instance : Shown (Except Fault String) :=
  ⟨id⟩

/-! ## Commands -/

/-- A command of a scene. -/
inductive Command (Thing : Type := Foreign) where
  | shape (shape : SceneShape)
  | glow (content : List (Command Thing))
  | foreign (thing : Thing)

/-- A command that is no group. -/
inductive Leaf (Thing : Type := Foreign) where
  | shape (shape : SceneShape)
  | foreign (thing : Thing)
  deriving DecidableEq

section

variable {Thing : Type}

/-- A leaf is a command. -/
def Leaf.toCommand : Leaf Thing → Command Thing
  | .shape drawn => .shape drawn
  | .foreign thing => .foreign thing

mutual

/-- The leaves of a command in drawing order. -/
def Command.leaves : Command Thing → List (Leaf Thing)
  | .shape drawn => [.shape drawn]
  | .glow content => flatten content
  | .foreign thing => [.foreign thing]

/-- The leaves of a scene in drawing order. -/
def flatten : List (Command Thing) → List (Leaf Thing)
  | [] => []
  | command :: rest => command.leaves ++ flatten rest

end

/-- A scene in two parts has the leaves of the first before those of the second. -/
@[simp] theorem flatten_append (first second : List (Command Thing)) :
    flatten (first ++ second) = flatten first ++ flatten second := by
  induction first with
  | nil => rfl
  | cons command rest ih => simp [flatten, ih]

/-- Leaves are not changed by flattening. -/
@[simp] theorem flatten_map_toCommand (leaves : List (Leaf Thing)) :
    flatten (leaves.map Leaf.toCommand) = leaves := by
  induction leaves with
  | nil => rfl
  | cons leaf rest ih => cases leaf <;> simp [flatten, Leaf.toCommand, Command.leaves, ih]

end

end VectorScene
