import VectorScene.Markup.Node

/-!
# Qualified names

A name in a namespace is written `{uri}local`.  Stripping a name removes, on
each of its lines, everything from the first opening brace that is closed on
that line to the last closing brace.
-/

namespace VectorScene.Markup

/-- The brace that opens a namespace. -/
def openBrace : Char := '\x7b'

/-- The brace that closes a namespace. -/
def closeBrace : Char := '\x7d'

/-- Whether a namespace is closed on the current line. -/
def closesOnLine (text : List Char) : Bool :=
  (text.takeWhile (· ≠ '\n')).contains closeBrace

/-- Strip a text.  The flag tells whether the position is inside a namespace. -/
def stripFrom : (inside : Bool) → List Char → List Char
  | _, [] => []
  | false, c :: rest =>
      if c = openBrace && closesOnLine rest then stripFrom true rest
      else c :: stripFrom false rest
  | true, c :: rest =>
      if c = closeBrace && !closesOnLine rest then stripFrom false rest
      else stripFrom true rest

/-- A name without its namespaces. -/
def stripName (name : String) : String :=
  String.ofList (stripFrom false name.toList)

namespace Node

variable {α : Type}

/-- Attributes with stripped names.  Of names that become equal, the first gives
the place and the last the value. -/
def stripAttributes (attributes : Attributes α) : Attributes α :=
  Attributes.ofList (attributes.map fun (name, value) => (stripName name, value))

mutual

/-- A tree with all tags and attribute names stripped. -/
def strip : Node α → Node α
  | .element tag attributes text children tail =>
      .element (stripName tag) (stripAttributes attributes) text (stripAll children) tail
  | .remark kind content tail => .remark kind content tail

/-- A list of trees with all tags and attribute names stripped. -/
def stripAll : List (Node α) → List (Node α)
  | [] => []
  | node :: rest => strip node :: stripAll rest

end

end Node

end VectorScene.Markup
