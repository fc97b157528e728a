import VectorScene.Markup.Scanner
import VectorScene.Markup.Writer

/-!
# Namespaces

An attribute `xmlns` or `xmlns:label` binds a label to a namespace for its element
and all that is in it.  Resolving a tree drops these attributes and puts every
name with a label, or under a default namespace, into the form `{uri}local`.
-/

namespace VectorScene.Markup

/-- The namespaces that labels are bound to, innermost first.  The empty label is
the one of names without a label. -/
abbrev Scope := List (List Char × List Char)

/-- The bindings that every document has. -/
def Scope.outermost : Scope :=
  [("xml".toList, xmlNamespace.toList)]

/-- The namespace of declarations, which no label can be bound to. -/
def declarationNamespace : String := "http://www.w3.org/2000/xmlns/"

/-- The label of a name, if it has one, and the name after it. -/
def splitLabel (name : String) : Option (List Char) × List Char :=
  match splitAt? [':'] name.toList with
  | some (label, inner) => (some label, inner)
  | none => (none, name.toList)

/-- The label that an attribute of some name binds. -/
def boundLabel? (name : String) : Option (List Char) :=
  match splitLabel name with
  | (none, inner) => if inner = "xmlns".toList then some [] else none
  | (some label, inner) => if label = "xmlns".toList then some inner else none

/-- Whether a label may be bound to a namespace.  The label and the namespace of
markup itself belong to each other, and only the empty label can be unbound. -/
def mayBind (label uri : List Char) : Bool :=
  (label.isEmpty || !uri.isEmpty) && label != "xmlns".toList &&
    ((label == "xml".toList) == (uri == xmlNamespace.toList)) &&
    uri != declarationNamespace.toList && !uri.contains closeBrace

/-- The scope inside an element with the given attributes. -/
def Scope.enter (scope : Scope) (attributes : Attributes String) : Option Scope :=
  attributes.foldlM
    (fun scope (name, value) =>
      match boundLabel? name with
      | some label =>
          if mayBind label value.toList then some ((label, value.toList) :: scope) else none
      | none => some scope)
    scope

/-- A name in a namespace. -/
def qualify (uri inner : List Char) : String :=
  String.ofList (if uri.isEmpty then inner else openBrace :: uri ++ closeBrace :: inner)

/-- The resolved name of an element. -/
def Scope.tag? (scope : Scope) (name : String) : Option String :=
  match splitLabel name with
  | (some label, inner) => (scope.lookup label).map (qualify · inner)
  | (none, inner) => some (qualify ((scope.lookup []).getD []) inner)

/-- The resolved name of an attribute.  Without a label it is in no namespace. -/
def Scope.attributeName? (scope : Scope) (name : String) : Option String :=
  match splitLabel name with
  | (some label, inner) => (scope.lookup label).map (qualify · inner)
  | (none, _) => some name

/-- Whether no name occurs twice. -/
def distinct : List String → Bool
  | [] => true
  | name :: rest => !rest.contains name && distinct rest

/-- The resolved attributes of an element without the bindings.  No two have one
name, before or after. -/
def Scope.attributes? (scope : Scope) (attributes : Attributes String) :
    Option (Attributes String) :=
  let free : Attributes String := attributes.filter fun pair => (boundLabel? pair.1).isNone
  (free.mapM fun pair => (scope.attributeName? pair.1).map (·, pair.2)).bind fun resolved =>
    if distinct attributes.names && distinct (Attributes.names resolved) then some resolved
    else none

mutual

/-- A tree with resolved names. -/
def Node.resolve? (scope : Scope) : Node String → Option (Node String)
  | .element tag attributes text children tail =>
      (scope.enter attributes).bind fun inner =>
        (inner.tag? tag).bind fun tag =>
          (inner.attributes? attributes).bind fun resolved =>
            (Node.resolveAll? inner children).map fun children =>
              .element tag resolved text children tail
  | .remark kind content tail => some (.remark kind content tail)

/-- A list of trees with resolved names. -/
def Node.resolveAll? (scope : Scope) : List (Node String) → Option (List (Node String))
  | [] => some []
  | node :: rest =>
      (Node.resolve? scope node).bind fun node =>
        (Node.resolveAll? scope rest).map (node :: ·)

end

end VectorScene.Markup
