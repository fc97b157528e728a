import VectorScene.Markup.Event
import VectorScene.Markup.Node

/-!
# Trees from events

Events are assembled from the last to the first.  Each level holds what has been
read of an element that has finished and not yet started: the text in front, and
the nodes after it.
-/

namespace VectorScene.Markup

/-- An element seen from its end: its name, the text before its first known node,
and the known nodes. -/
structure Level where
  name : List Char
  lead : List Char
  nodes : List (Node String)

/-- A text, which is absent when it has no characters. -/
def optionalText (content : List Char) : Option String :=
  if content.isEmpty then none else some (String.ofList content)

/-- Put text in front of a level. -/
def Level.addText (content : List Char) (level : Level) : Level :=
  { level with lead := content ++ level.lead }

/-- Put an element in front of a level.  The text that was in front becomes its
tail. -/
def Level.addElement (level : Level) (name : List Char)
    (attributes : List (List Char × List Char)) (inner : Level) : Level :=
  { level with
    lead := []
    nodes :=
      .element (String.ofList name)
        (attributes.map fun (key, value) => (String.ofList key, String.ofList value))
        (optionalText inner.lead) inner.nodes (optionalText level.lead) :: level.nodes }

/-- Put an event in front of the levels.  The outermost level is the document,
which holds white space only beside its elements. -/
def Event.attach? (event : Event) (levels : List Level) : Option (List Level) :=
  match event, levels with
  | .finish name, levels => some (⟨name, [], []⟩ :: levels)
  | .start name attributes, inner :: level :: outer =>
      if inner.name = name then some (level.addElement name attributes inner :: outer) else none
  | .character c, [document] => if isSpace c then some [document] else none
  | .character c, level :: next :: outer => some (level.addText [c] :: next :: outer)
  | .text content, level :: next :: outer => some (level.addText content :: next :: outer)
  | _, _ => none

/-- The levels in front of which all events have been put. -/
def assemble? : List Event → Option (List Level)
  | [] => some [⟨[], [], []⟩]
  | event :: rest => (assemble? rest).bind event.attach?

/-- The root element of a document. -/
def root? (events : List Event) : Option (Node String) :=
  match assemble? events with
  | some [⟨_, _, [root]⟩] => some root
  | _ => none

end VectorScene.Markup
