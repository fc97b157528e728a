import VectorScene.Fault
import VectorScene.Markup.Layout
import VectorScene.Markup.Name

/-!
# Writing documents

A document is written with the shortest form of empty elements.  Names in a
namespace get a label, which the root element declares.
-/

namespace VectorScene.Markup

/-! ## Escapes -/

/-- A character of a text as it is written. -/
def escapeTextChar (c : Char) : List Char :=
  if c = '&' then ['&', 'a', 'm', 'p', ';']
  else if c = '<' then ['&', 'l', 't', ';']
  else if c = '>' then ['&', 'g', 't', ';']
  else [c]

/-- A character of an attribute value as it is written. -/
def escapeValueChar (c : Char) : List Char :=
  if c = '"' then ['&', 'q', 'u', 'o', 't', ';']
  else if c = '\r' then ['&', '#', '1', '3', ';']
  else if c = '\n' then ['&', '#', '1', '0', ';']
  else if c = '\t' then ['&', '#', '0', '9', ';']
  else escapeTextChar c

/-- A text as it is written. -/
def escapeText (text : List Char) : List Char :=
  text.flatMap escapeTextChar

/-- An attribute value as it is written. -/
def escapeValue (value : List Char) : List Char :=
  value.flatMap escapeValueChar

/-! ## Namespaces -/

/-- The namespace of markup itself. -/
def xmlNamespace : String := "http://www.w3.org/XML/1998/namespace"

/-- The labels of well-known namespaces. -/
def knownLabels : List (String × String) :=
  [(xmlNamespace, "xml"),
   ("http://www.w3.org/1999/xhtml", "html"),
   ("http://www.w3.org/1999/02/22-rdf-syntax-ns#", "rdf"),
   ("http://schemas.xmlsoap.org/wsdl/", "wsdl"),
   ("http://www.w3.org/2001/XMLSchema", "xs"),
   ("http://www.w3.org/2001/XMLSchema-instance", "xsi"),
   ("http://purl.org/dc/elements/1.1/", "dc")]

/-- Cut a text at its last closing brace. -/
def splitLastBrace : List Char → Option (List Char × List Char)
  | [] => none
  | c :: rest =>
      match splitLastBrace rest with
      | some (uri, name) => some (c :: uri, name)
      | none => if c = closeBrace then some ([], rest) else none

/-- The namespace of a name, if it has one, and the name in it.  A namespace that
is opened must be closed. -/
def splitName (name : String) : Except Fault (Option String × String) :=
  match name.toList with
  | [] => .ok (none, name)
  | c :: rest =>
      if c = openBrace then
        match splitLastBrace rest with
        | some (uri, inner) => .ok (some (String.ofList uri), String.ofList inner)
        | none => .error .unclosedName
      else .ok (none, name)

/-- Namespaces with the labels they are declared with, in order of appearance. -/
abbrev Labels := List (String × String)

/-- The label of a namespace: the one it has, a well-known one, or a new one. -/
def Labels.label (labels : Labels) (uri : String) : String :=
  ((labels.lookup uri).or (knownLabels.lookup uri)).getD ("ns" ++ toString labels.length)

/-- Give the namespace of a name a label.  The namespace of markup itself needs
no declaration. -/
def Labels.register (labels : Labels) (name : String) : Except Fault Labels :=
  (splitName name).map fun
    | (none, _) => labels
    | (some uri, _) =>
        if labels.any (·.1 = uri) || labels.label uri = "xml" then labels
        else labels ++ [(uri, labels.label uri)]

/-- The labels of all names of a document, in document order. -/
def Labels.ofNode {α : Type} (root : Node α) : Except Fault Labels :=
  (root.preorder.flatMap fun node => node.tag?.toList ++ node.attributes.names).foldlM
    Labels.register []

/-- A name as it is written. -/
def Labels.write (labels : Labels) (name : String) : List Char :=
  match splitName name with
  | .ok (some uri, inner) => (labels.label uri).toList ++ ':' :: inner.toList
  | _ => name.toList

/-- The declarations of all labels, sorted by label. -/
def Labels.declarations (labels : Labels) : List Char :=
  (labels.mergeSort fun left right => left.2 ≤ right.2).flatMap fun (uri, label) =>
    " xmlns:".toList ++ label.toList ++ ['=', '"'] ++ escapeValue uri.toList ++ ['"']

/-! ## Nodes -/

/-- The written form of a text that may be absent. -/
def writeText (text : Option String) : List Char :=
  escapeText (text.getD "").toList

/-- The written form of an attribute. -/
def writeAttribute (labels : Labels) (pair : String × String) : List Char :=
  ' ' :: labels.write pair.1 ++ ['=', '"'] ++ escapeValue pair.2.toList ++ ['"']

/-- The written form of a comment or an instruction. -/
def writeRemark (kind : Remark) (content : String) : List Char :=
  match kind with
  | .comment => "<!--".toList ++ content.toList ++ "-->".toList
  | .instruction => "<?".toList ++ content.toList ++ "?>".toList

/-- The written form of an element around its content.  Without content it is a
single tag. -/
def writeElement (tag attributes content : List Char) (isEmpty : Bool) : List Char :=
  if isEmpty then '<' :: tag ++ attributes ++ " />".toList
  else '<' :: tag ++ attributes ++ '>' :: content ++ "</".toList ++ tag ++ ['>']

mutual

/-- The written form of a node with its tail.  The declarations stand before its
attributes. -/
def writeNode (labels : Labels) (declarations : List Char) : Node String → List Char
  | .element tag attributes text children tail =>
      writeElement (labels.write tag)
        (declarations ++ attributes.flatMap (writeAttribute labels))
        (writeText text ++ writeNodes labels children)
        (children.isEmpty && (text.getD "").isEmpty) ++ writeText tail
  | .remark kind content tail => writeRemark kind content ++ writeText tail

/-- The written form of a list of nodes. -/
def writeNodes (labels : Labels) : List (Node String) → List Char
  | [] => []
  | node :: rest => writeNode labels [] node ++ writeNodes labels rest

end

namespace Node

/-- The written form of a document. -/
def write (root : Node String) : Except Fault String :=
  (Labels.ofNode root).map fun labels =>
    String.ofList (writeNode labels labels.declarations root)

/-- The written form of a document laid out with an indentation. -/
def render (root : Node String) (indent : Option Indent) : Except Fault String :=
  (root.indented indent).write

end Node

end VectorScene.Markup
