/-!
# Markup trees

A document is a tree of elements, comments and processing instructions.  The
text before an element's first child belongs to the element, and the text after
a node belongs to the node as its tail.
-/

namespace VectorScene.Markup

/-- Attributes in document order. -/
abbrev Attributes (α : Type) := List (String × α)

namespace Attributes

variable {α β : Type}

/-- The value of an attribute. -/
def get? (attributes : Attributes α) (name : String) : Option α :=
  List.lookup name attributes

/-- Give an attribute a value.  A new attribute comes last, and one that is
present keeps its place. -/
def set (attributes : Attributes α) (name : String) (value : α) : Attributes α :=
  match attributes with
  | [] => [(name, value)]
  | (other, kept) :: rest =>
      if other = name then (name, value) :: rest else (other, kept) :: set rest name value

/-- Attributes given one after the other, a later value replacing an earlier one
of the same name. -/
def ofList (pairs : List (String × α)) : Attributes α :=
  pairs.foldl (fun attributes pair => attributes.set pair.1 pair.2) []

/-- The names of attributes in order. -/
def names (attributes : Attributes α) : List String :=
  attributes.map Prod.fst

end Attributes

/-- What a node without a tag is. -/
inductive Remark where
  | comment
  | instruction
  deriving DecidableEq

/-- A node of a document. -/
inductive Node (α : Type) where
  | element (tag : String) (attributes : Attributes α) (text : Option String)
      (children : List (Node α)) (tail : Option String)
  | remark (kind : Remark) (content : String) (tail : Option String)

namespace Node

variable {α β : Type}

/-- The tag of an element. -/
def tag? : Node α → Option String
  | .element tag _ _ _ _ => some tag
  | .remark _ _ _ => none

/-- The attributes of a node. -/
def attributes : Node α → Attributes α
  | .element _ attributes _ _ _ => attributes
  | .remark _ _ _ => []

/-- The text before the first child. -/
def text : Node α → Option String
  | .element _ _ text _ _ => text
  | .remark _ _ _ => none

/-- The children of a node. -/
def children : Node α → List (Node α)
  | .element _ _ _ children _ => children
  | .remark _ _ _ => []

/-- The text after a node. -/
def tail : Node α → Option String
  | .element _ _ _ _ tail => tail
  | .remark _ _ tail => tail

/-- A node with another tail. -/
def withTail (node : Node α) (tail : Option String) : Node α :=
  match node with
  | .element tag attributes text children _ => .element tag attributes text children tail
  | .remark kind content _ => .remark kind content tail

/-- An element with another text. -/
def withText (node : Node α) (text : Option String) : Node α :=
  match node with
  | .element tag attributes _ children tail => .element tag attributes text children tail
  | .remark kind content tail => .remark kind content tail

/-- The value of an attribute of a node. -/
def get? (node : Node α) (name : String) : Option α :=
  node.attributes.get? name

mutual

/-- Whether two nodes are equal. -/
def decEq [DecidableEq α] : (left right : Node α) → Decidable (left = right)
  | .element tag attributes text children tail,
      .element otherTag otherAttributes otherText otherChildren otherTail =>
      have := decEqAll children otherChildren
      decidable_of_iff
        (tag = otherTag ∧ attributes = otherAttributes ∧ text = otherText ∧
          children = otherChildren ∧ tail = otherTail)
        (Iff.of_eq (element.injEq ..).symm)
  | .remark kind content tail, .remark otherKind otherContent otherTail =>
      decidable_of_iff (kind = otherKind ∧ content = otherContent ∧ tail = otherTail)
        (Iff.of_eq (remark.injEq ..).symm)
  | .element .., .remark .. => isFalse nofun
  | .remark .., .element .. => isFalse nofun

/-- Whether two lists of nodes are equal. -/
def decEqAll [DecidableEq α] : (left right : List (Node α)) → Decidable (left = right)
  | [], [] => isTrue rfl
  | node :: rest, other :: others =>
      have := decEq node other
      have := decEqAll rest others
      decidable_of_iff (node = other ∧ rest = others) List.cons_eq_cons.symm
  | [], _ :: _ => isFalse nofun
  | _ :: _, [] => isFalse nofun

end

instance [DecidableEq α] : DecidableEq (Node α) :=
  decEq

mutual

/-- A node and all its descendants in document order. -/
def preorder : Node α → List (Node α)
  | .element tag attributes text children tail =>
      .element tag attributes text children tail :: preorderAll children
  | .remark kind content tail => [.remark kind content tail]

/-- The nodes of a list and all their descendants in document order. -/
def preorderAll : List (Node α) → List (Node α)
  | [] => []
  | node :: rest => preorder node ++ preorderAll rest

end

mutual

/-- Apply a function to every attribute value. -/
def mapValues (convert : α → β) : Node α → Node β
  | .element tag attributes text children tail =>
      .element tag (attributes.map fun pair => (pair.1, convert pair.2)) text
        (mapValuesAll convert children) tail
  | .remark kind content tail => .remark kind content tail

/-- Apply a function to every attribute value of a list of nodes. -/
def mapValuesAll (convert : α → β) : List (Node α) → List (Node β)
  | [] => []
  | node :: rest => mapValues convert node :: mapValuesAll convert rest

end

end Node

end VectorScene.Markup
