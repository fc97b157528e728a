import VectorScene.Markup.Prolog

/-!
# Events of a document

The events of a document are its tokens with all references replaced by the entities
that are known.  An entity that refers to itself has no replacement.
-/

namespace VectorScene.Markup

/-- What happens at one place of a document: an element starts or finishes, or
there is text.  A character that stands in the document itself is told apart from
other text, because it alone may be white space between the parts of a document. -/
inductive Event where
  | start (name : List Char) (attributes : List (List Char × List Char))
  | finish (name : List Char)
  | character (c : Char)
  | text (content : List Char)
  deriving DecidableEq

/-- An event inside an entity, where all characters are text. -/
def Event.inEntity : Event → Event
  | .character c => .text [c]
  | event => event

/-- Whether events finish all elements that they start and no other, after a
number of elements has been started. -/
def balanced : (depth : Nat) → List Event → Bool
  | depth, [] => depth = 0
  | depth, .start _ _ :: rest => balanced (depth + 1) rest
  | 0, .finish _ :: _ => false
  | depth + 1, .finish _ :: rest => balanced depth rest
  | depth, .character _ :: rest => balanced depth rest
  | depth, .text _ :: rest => balanced depth rest

/-- The text that a piece of an attribute value stands for.  White space is a
space there, and an entity must not hold an opening angle bracket.  Entities are
replaced down to a depth. -/
def Piece.inValue? (entities : Entities) : (depth : Nat) → Piece → Option (List Char)
  | _, .character c => some [if isSpace c then ' ' else c]
  | _, .code c => some [c]
  | 0, .entity name =>
      match predefined.lookup name, entities.declared.lookup name with
      | some c, _ => some [c]
      | none, some _ => none
      | none, none => if entities.lenient then some [] else none
  | depth + 1, .entity name =>
      match predefined.lookup name, entities.declared.lookup name with
      | some c, _ => some [c]
      | none, some (.internal replacement) =>
          if replacement.contains '<' then none
          else (pieces? replacement).bind fun parts =>
            (parts.mapM (inValue? entities depth)).map List.flatten
      | none, some .external => none
      | none, none => if entities.lenient then some [] else none

/-- The value of an attribute. -/
def value? (entities : Entities) (depth : Nat) (parts : List Piece) : Option (List Char) :=
  (parts.mapM (Piece.inValue? entities depth)).map List.flatten

/-- The events of a token.  Entities are replaced down to a depth. -/
def Token.events? (entities : Entities) : (depth : Nat) → Token → Option (List Event)
  | _, .piece (.character c) => some [.character c]
  | _, .piece (.code c) => some [.text [c]]
  | _, .verbatim content => some [.text content]
  | _, .closeTag name => some [.finish name]
  | depth, .openTag name attributes =>
      (attributes.mapM fun pair => (value? entities depth pair.2).map (pair.1, ·)).map
        fun values => [.start name values]
  | 0, .piece (.entity name) => (predefined.lookup name).map fun c => [.text [c]]
  | depth + 1, .piece (.entity name) =>
      match predefined.lookup name, entities.declared.lookup name with
      | some c, _ => some [.text [c]]
      | none, some (.internal replacement) =>
          (tokens? replacement).bind fun tokens =>
            (tokens.mapM (events? entities depth)).bind fun events =>
              if balanced 0 events.flatten then
                some (.text [] :: events.flatten.map Event.inEntity)
              else none
      | none, _ => none

/-- The events of a text.  An entity that is nested deeper than there are entities
refers to itself. -/
def events? (entities : Entities) (text : List Char) : Option (List Event) :=
  (tokens? text).bind fun tokens =>
    (tokens.mapM (Token.events? entities entities.declared.length)).map List.flatten

end VectorScene.Markup
