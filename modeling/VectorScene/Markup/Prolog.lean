import VectorScene.Markup.Declaration

/-!
# The prolog of a document

Before its root element a document may have a declaration of its version, and a
document type.  Entities and attributes that the document type declares matter to the
content of the document.  Parts of the document type that are outside the document are
not read.
-/

namespace VectorScene.Markup

/-- What an entity stands for: a text of its own, or something outside the
document, which is not read. -/
inductive Entity where
  | internal (replacement : List Char)
  | external
  deriving DecidableEq

/-- The entities that are known at some place, in order of declaration.  The first
declaration of a name counts.  If there may be declarations outside the document, an
attribute value may use entities that are not known, and they stand for nothing. -/
structure Entities where
  declared : List (List Char × Entity)
  lenient : Bool

/-- What the document type of a document declares.  The value by default of an attribute
is given by its pieces, with the entities that are known where it is declared. -/
structure Doctype where
  entities : Entities
  attributes : List (AttributeDeclaration (Entities × List Piece))

/-- The document type of a document that has none. -/
def Doctype.empty : Doctype :=
  ⟨⟨[], false⟩, []⟩

/-! ## The version declaration -/

/-- Whether the value of a version declaration may hold a character. -/
def isDeclarationChar (c : Char) : Bool :=
  ('a' ≤ c && c ≤ 'z') || ('A' ≤ c && c ≤ 'Z') || Text.isDigit c || c = '.' || c = '-' || c = '_'

/-- Take a part `name="value"` with white space before it off a version
declaration. -/
def declarationPart? (name text : List Char) : Option (List Char × List Char) :=
  if text.head?.any isSpace then
    (after? name (text.dropWhile isSpace)).bind fun rest =>
      (after? ['='] (rest.dropWhile isSpace)).bind fun rest =>
        (literal? (rest.dropWhile isSpace)).bind fun (value, rest) =>
          if value.all isDeclarationChar then some (value, rest) else none
  else none

/-- Skip an encoding in a version declaration.  Its name starts with a letter. -/
def skipEncoding? (text : List Char) : Option (List Char) :=
  match declarationPart? "encoding".toList text with
  | some (value, rest) =>
      if value.head?.any fun c => ('a' ≤ c && c ≤ 'z') || ('A' ≤ c && c ≤ 'Z') then some rest
      else none
  | none => some text

/-- Read the content of a version declaration.  The flag tells whether the
document says that it stands alone. -/
def standsAlone? (text : List Char) : Option Bool :=
  (declarationPart? "version".toList text).bind fun (_, rest) =>
    (skipEncoding? rest).bind fun rest =>
      if rest.all isSpace then some false
      else
        (declarationPart? "standalone".toList rest).bind fun (value, rest) =>
          if !rest.all isSpace then none
          else if value = "yes".toList then some true
          else if value = "no".toList then some false
          else none

/-- Take a version declaration off a document that has one. -/
def versionDeclaration? (text : List Char) : Option (Bool × List Char) :=
  match after? "<?xml".toList text with
  | some rest =>
      if rest.head?.any isNameChar then some (false, text)
      else
        (splitAt? ['?', '>'] rest).bind fun (content, rest) =>
          (standsAlone? content).map (·, rest)
  | none => some (false, text)

/-- The text after all white space, comments and instructions that come first. -/
def skipRemarks (text : List Char) : List Char :=
  match text with
  | [] => []
  | c :: rest =>
      if isSpace c then skipRemarks rest
      else
        match _found : afterRemark? (c :: rest) with
        | some rest => skipRemarks rest
        | none => c :: rest
termination_by text.length
decreasing_by
  · simp
  · exact afterRemark?_shorter _found

/-! ## The document type -/

/-- Replace line ends by line feeds. -/
def normalizeLines : List Char → List Char
  | '\r' :: '\n' :: rest => '\n' :: normalizeLines rest
  | '\r' :: rest => '\n' :: normalizeLines rest
  | c :: rest => c :: normalizeLines rest
  | [] => []

/-- A piece of the declared text of an entity.  Codes stand for characters at
once, and references to entities are kept. -/
def Piece.declared : Piece → List Char
  | .character c => [c]
  | .code c => [c]
  | .entity name => '&' :: name ++ [';']

/-- The replacement text of an entity declared by a literal.  Line ends given by
codes are not replaced. -/
def replacement? (value : List Char) : Option (List Char) :=
  if value.contains '%' then none
  else (pieces? value).map fun parts => parts.flatMap Piece.declared

/-- The entity that is declared by a text, or to be outside the document. -/
def Entity.declared? : Option (List Char) → Option Entity
  | some value => (replacement? value).map .internal
  | none => some .external

/-- Add what an item declares.  Parameter entities are not used, because they stand
for nothing inside of a declaration, and are not read between declarations. -/
def Doctype.declare? (doctype : Doctype) : Declaration → Option Doctype
  | .entity isParameter name text =>
      (Entity.declared? text).map fun entity =>
        if isParameter then doctype
        else { doctype with entities.declared := doctype.entities.declared ++ [(name, entity)] }
  | .attributes declared =>
      let known := declared.mapM fun declaration =>
        declaration.mapM fun value => (valuePieces? value).map (doctype.entities, ·)
      known.map fun more => { doctype with attributes := doctype.attributes ++ more }
  | .reference => some doctype
  | .inert => some doctype

/-- What is known after some items of a document type, and whether declarations still
count. -/
structure Subset where
  doctype : Doctype
  counts : Bool

/-- Add an item.  Unless a document says that it stands alone, a reference to a parameter
entity may stand for any declarations, and so no later one counts. -/
def Subset.add? (isAlone : Bool) (subset : Subset) (declaration : Declaration) : Option Subset :=
  match declaration with
  | .reference =>
      if isAlone then some subset
      else some ⟨{ subset.doctype with entities.lenient := true }, false⟩
  | declaration =>
      if subset.counts then (subset.doctype.declare? declaration).map (⟨·, true⟩)
      else some subset

/-- Read the inner part of a document type up to its closing bracket. -/
def subset? (isAlone : Bool) (subset : Subset) (text : List Char) :
    Option (Doctype × List Char) :=
  match text with
  | [] => none
  | c :: rest =>
      if c = ']' then some (subset.doctype, rest)
      else if isSpace c then subset? isAlone subset rest
      else
        match _found : item? (c :: rest) with
        | some (declaration, rest) =>
            match subset.add? isAlone declaration with
            | some subset => subset? isAlone subset rest
            | none => none
        | none => none
termination_by text.length
decreasing_by
  · exact Nat.lt_succ_self _
  · exact item?_shorter _found

/-- The text after the identifier of something outside the document: a system
identifier, or a public and a system identifier. -/
def afterExternalId? (text : List Char) : Option (List Char) :=
  let system :=
    (after? "SYSTEM".toList text).bind fun rest =>
      (spaces? rest).bind fun rest => (delimitedLiteral? rest).map Prod.snd
  let «public» :=
    (after? "PUBLIC".toList text).bind fun rest =>
      (spaces? rest).bind fun rest =>
        (delimitedLiteral? rest).bind fun (identifier, rest) =>
          if identifier.all isPublicIdChar then
            (spaces? rest).bind fun rest => (delimitedLiteral? rest).map Prod.snd
          else none
  system.or «public»

/-- The text after the name of a document type.  Any characters of names may
follow a colon in it. -/
def afterDoctypeName? (text : List Char) : Option (List Char) :=
  (plainName? text).bind fun (_, rest) =>
    match rest with
    | ':' :: rest => if rest.head?.any isNameChar then some (rest.dropWhile isNameChar) else none
    | rest => some rest

/-- Take a document type off a text that follows its keyword. -/
def doctype? (isAlone : Bool) (text : List Char) : Option (Doctype × List Char) :=
  (spaces? text).bind fun rest =>
    (afterDoctypeName? rest).bind fun rest =>
      let outside := (spaces? rest).bind afterExternalId?
      let rest := (outside.getD rest).dropWhile isSpace
      let doctype : Doctype := ⟨⟨[], outside.isSome && !isAlone⟩, []⟩
      let inner : Option (Doctype × List Char) :=
        match rest with
        | '[' :: rest => (subset? isAlone ⟨doctype, true⟩ rest).map fun (doctype, rest) =>
            (doctype, rest.dropWhile isSpace)
        | rest => some (doctype, rest)
      inner.bind fun (doctype, rest) =>
        (after? ['>'] rest).map fun rest => (doctype, rest)

/-- Take everything before the root element off a document. -/
def prolog? (text : List Char) : Option (Doctype × List Char) :=
  (versionDeclaration? text).bind fun (isAlone, rest) =>
    let rest := skipRemarks rest
    match after? "<!DOCTYPE".toList rest with
    | some rest => (doctype? isAlone rest).map fun (doctype, rest) => (doctype, skipRemarks rest)
    | none => some (.empty, rest)

end VectorScene.Markup
