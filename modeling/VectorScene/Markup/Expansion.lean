import VectorScene.Markup.Prolog

/-!
# Growth by entities

Entities that refer to each other can make a short document grow without
measure.  The growth is computed before any entity is replaced, from the sizes of
the entities alone, and a document that would grow too much is refused.  It is
compared with the size of the whole document, wherever entities are used in it.
-/

namespace VectorScene.Markup

/-- The entities that a piece refers to, of those that a document declares. -/
def Piece.references : Piece → List (List Char)
  | .character _ => []
  | .code _ => []
  | .entity name => if (predefined.lookup name).isSome then [] else [name]

/-- The entities that a token refers to. -/
def Token.references : Token → List (List Char)
  | .piece part => part.references
  | .verbatim _ => []
  | .openTag _ attributes => attributes.flatMap fun pair => pair.2.flatMap Piece.references
  | .closeTag _ => []

/-- The entities that a text refers to.  A text that is no content can still be
part of an attribute value. -/
def references (text : List Char) : List (List Char) :=
  match tokens? text with
  | some tokens => tokens.flatMap Token.references
  | none => ((pieces? text).getD []).flatMap Piece.references

/-- The number of bytes that a text takes up. -/
def byteCount (text : List Char) : Nat :=
  text.foldl (fun count c => count + c.utf8Size) 0

/-- The replacement text of an entity. -/
def Entity.replacement : Entity → List Char
  | .internal replacement => replacement
  | .external => []

/-- An entity without its text: its name, its own size, and what it refers to. -/
structure Outline where
  name : List Char
  size : Nat
  inner : List (List Char)

/-- Names with the sizes that they stand for. -/
abbrev Sizes := List (List Char × Nat)

/-- The size that a list of references stands for. -/
def Sizes.total (sizes : Sizes) (names : List (List Char)) : Nat :=
  names.foldl (fun total name => total + (sizes.lookup name).getD 0) 0

/-- The sizes of entities with all that they refer to, down to a depth. -/
def expandedSizes (outlines : List Outline) : (depth : Nat) → Sizes
  | 0 => []
  | depth + 1 =>
      let inner := expandedSizes outlines depth
      outlines.map fun outline => (outline.name, outline.size + inner.total outline.inner)

/-- The outlines of entities. -/
def Entities.outlines (entities : Entities) : List Outline :=
  entities.declared.map fun (name, entity) =>
    ⟨name, byteCount entity.replacement, references entity.replacement⟩

/-- The number of bytes that references stand for. -/
def Entities.growth (entities : Entities) (names : List (List Char)) : Nat :=
  (expandedSizes entities.outlines entities.declared.length).total names

/-- The number of bytes that entities add to a document, in values by default and in its
content. -/
def Doctype.growth (doctype : Doctype) (content : List Char) : Nat :=
  let defaults := doctype.attributes.filterMap AttributeDeclaration.default
  defaults.foldl
    (fun total (known, parts) => total + known.growth (parts.flatMap Piece.references))
    (doctype.entities.growth (references content))

/-- The size in bytes from which the growth of a document is limited. -/
def unlimitedSize : Nat := 8388608

/-- How many times larger a document may become. -/
def maxGrowth : Nat := 100

/-- Whether a document of a size may grow by a number of bytes. -/
def mayGrow (size growth : Nat) : Bool :=
  size + growth < unlimitedSize || size + growth ≤ maxGrowth * size

/-- Whether a document does not grow too much by its entities. -/
def Doctype.admits (doctype : Doctype) (size : Nat) (content : List Char) : Bool :=
  doctype.entities.declared.isEmpty || mayGrow size (doctype.growth content)

end VectorScene.Markup
