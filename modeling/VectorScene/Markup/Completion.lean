import VectorScene.Markup.Event

/-!
# Declared attributes

A document type may declare that the values of an attribute are tokens, and it may give
values by default.  So what is read of an element depends on the declarations of its
attributes.  Of several declarations of one attribute, the first counts.
-/

namespace VectorScene.Markup

/-- What is declared about attributes, in order, with the values by default. -/
abbrev AttributeRules := List (AttributeDeclaration (List Char))

/-- The text without the spaces that end it or are followed by a space. -/
def squeeze : List Char → List Char
  | [] => []
  | c :: rest => if c = ' ' && rest.head?.all (· = ' ') then squeeze rest else c :: squeeze rest

/-- A list of tokens with single spaces between them. -/
def joinTokens (value : List Char) : List Char :=
  squeeze (value.dropWhile (· = ' '))

/-- A value of an attribute that is declared. -/
def AttributeDeclaration.conform {α : Type} (declaration : AttributeDeclaration α)
    (value : List Char) : List Char :=
  if declaration.isTokens then joinTokens value else value

namespace AttributeRules

/-- The value of an attribute of an element. -/
def value (rules : AttributeRules) (element name given : List Char) : List Char :=
  match rules.find? fun rule => rule.element = element && rule.name = name with
  | some rule => rule.conform given
  | none => given

/-- The attributes of an element that have values by default and are not among those that
are known. -/
def defaults (element : List Char) :
    (known : List (List Char)) → AttributeRules → List (List Char × List Char)
  | _, [] => []
  | known, rule :: rules =>
      if rule.element = element && !known.contains rule.name then
        match rule.default with
        | some value =>
            (rule.name, rule.conform value) :: defaults element (rule.name :: known) rules
        | none => defaults element (rule.name :: known) rules
      else defaults element known rules

/-- The attributes of an element: those that are given, and those by default. -/
def complete (rules : AttributeRules) (element : List Char)
    (given : List (List Char × List Char)) : List (List Char × List Char) :=
  given.map (fun (name, value) => (name, rules.value element name value)) ++
    defaults element (given.map Prod.fst) rules

end AttributeRules

/-- An event with the attributes of elements as they are declared. -/
def Event.complete (rules : AttributeRules) : Event → Event
  | .start name attributes => .start name (rules.complete name attributes)
  | event => event

namespace Doctype

/-- What a document type declares about attributes.  Every value by default must stand for
some text, used or not. -/
def rules? (doctype : Doctype) : Option AttributeRules :=
  doctype.attributes.mapM fun declaration =>
    declaration.mapM fun (known, parts) => value? known known.declared.length parts

/-- The events of the content of a document. -/
def events? (doctype : Doctype) (text : List Char) : Option (List Event) :=
  doctype.rules?.bind fun rules =>
    (Markup.events? doctype.entities text).map fun events => events.map (Event.complete rules)

end Doctype

end VectorScene.Markup
