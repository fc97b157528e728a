import VectorScene.Markup.Node
import VectorScene.Text.Blank

/-!
# Indentation

Laying out a tree puts every child on a line of its own, indented by its depth.
Only blank texts and tails are replaced, except that the tail of a last child
always becomes the line break before the closing tag.
-/

namespace VectorScene.Markup

/-- How a document is indented: by a number of spaces per level, where a negative
one counts as zero, or by a text per level. -/
inductive Indent where
  | spaces (count : Int)
  | text (tab : String)
  deriving DecidableEq

/-- The text that indents one level.  Every number of spaces has one here: limits of
memory are left out. -/
def Indent.tab : Indent → List Char
  | .spaces count => List.replicate count.toNat ' '
  | .text tab => tab.toList

/-- A line break and the indentation of a level. -/
def lineBreak (tab : List Char) (level : Nat) : String :=
  String.ofList ('\n' :: (List.replicate level tab).flatten)

/-- Whether a text is absent or holds white space only. -/
def isBlankText (text : Option String) : Bool :=
  text.all fun content => Text.allBlank content.toList

/-- Replace a blank text. -/
def fillBlank (text : Option String) (filling : String) : Option String :=
  if isBlankText text then some filling else text

namespace Node

variable {α : Type}

/-- Give the last node of a list a tail. -/
def closeLast (tail : String) : List (Node α) → List (Node α)
  | [] => []
  | [last] => [last.withTail (some tail)]
  | node :: next :: rest => node :: closeLast tail (next :: rest)

mutual

/-- A tree laid out from a level on.  The tail of the root of a document, which
has level zero, is kept. -/
def layout (tab : List Char) (level : Nat) : Node α → Node α
  | .element tag attributes text children tail =>
      .element tag attributes
        (if children.isEmpty then text else fillBlank text (lineBreak tab (level + 1)))
        (closeLast (lineBreak tab level) (layoutAll tab (level + 1) children))
        (if level = 0 then tail else fillBlank tail (lineBreak tab level))
  | .remark kind content tail =>
      .remark kind content (if level = 0 then tail else fillBlank tail (lineBreak tab level))

/-- A list of trees of one level laid out. -/
def layoutAll (tab : List Char) (level : Nat) : List (Node α) → List (Node α)
  | [] => []
  | node :: rest => layout tab level node :: layoutAll tab level rest

end

/-- A document laid out, or as it is without an indentation. -/
def indented (indent : Option Indent) (root : Node α) : Node α :=
  match indent with
  | some indent => layout indent.tab 0 root
  | none => root

end Node

end VectorScene.Markup
