import VectorScene.Proofs.Markup.Document
import VectorScene.Proofs.Markup.Namespace

/-!
# Trees of documents

What is read of a document has plain tags, legal characters, and no empty texts.  All
namespaces of the document must be on one line each, because otherwise a name is not stripped
of all of its namespace.  The names of attributes are plain too, but for those that only the
document type gives.
-/

namespace VectorScene.Markup

/-- An element as it is read.  Its tag is plain, no two of its attributes have one name, and
its values are legal. -/
structure Node.Read (node : Node String) : Prop where
  tag : ∃ tag, node.tag? = some tag ∧ isPlainName tag.toList = true
  attributes : ∀ pair ∈ node.attributes, IsNameToken pair.1.toList ∧ LegalText pair.2.toList
  nodup : node.attributes.names.Nodup

/-- A tree as it is read.  It consists of elements, its texts are legal and not empty,
and no text follows it. -/
structure Node.ReadTree (root : Node String) : Prop where
  elements : ∀ inner ∈ root.preorder, inner.Read
  texts : ∀ text ∈ root.texts, LegalText text.toList ∧ text ≠ ""
  tail : root.tail = none

namespace Node

variable {root : Node String}

/-- An element whose attributes have plain names. -/
def PlainNames (node : Node String) : Prop :=
  ∀ pair ∈ node.attributes, isPlainName pair.1.toList = true

theorem Read.named (read : root.Read) (plainNames : root.PlainNames) : root.Named := by
  obtain ⟨tag, tagged, plain⟩ := read.tag
  constructor
  · exact ⟨tag, tagged, isName_of_isPlainName plain⟩
  · intro pair member
    exact isName_of_isPlainName (plainNames pair member)

theorem Read.plain (read : root.Read) (plainNames : root.PlainNames)
    (free : "xmlns" ∉ root.attributes.names) : root.Plain := by
  refine ⟨read.tag, ?_, read.nodup⟩
  intro pair member
  refine ⟨plainNames pair member, ?_⟩
  intro same
  exact free (List.mem_map.2 ⟨pair, member, same⟩)

theorem ReadTree.legal (read : root.ReadTree) : root.Legal := by
  constructor
  · intro inner member pair inside
    exact ((read.elements inner member).attributes pair inside).2
  · intro text member
    exact (read.texts text member).1

/-! ## Namespaces -/

/-- The namespaces that an element binds labels to. -/
def boundNamespaces (node : Node String) : List String :=
  (node.attributes.filter fun pair => (boundLabel? pair.1).isSome).map Prod.snd

end Node

/-- The namespaces that are bound anywhere in a document. -/
def namespaces (text : String) : List String :=
  (source? text.toList).toList.flatMap fun root => root.preorder.flatMap Node.boundNamespaces

/-- A sound element whose names are resolved and stripped is one as it is read. -/
theorem Scope.Resolves.read {scope : Scope} {original resolved : Node String}
    (resolves : scope.Resolves original resolved) (strippable : scope.Strippable)
    (sound : original.Sound Declarable) : resolved.strip.Read := by
  refine ⟨?_, ?_, Node.nodup_attributes_strip resolved⟩
  · obtain ⟨tag, tagged, qualified⟩ := sound.tag
    have same := resolves.tag
    rw [tagged, Option.map_some] at same
    obtain ⟨name, named, known⟩ := Option.map_eq_some_iff.1 same.symm
    refine ⟨stripName name, ?_, strippable.isPlainName_tag? qualified known.symm⟩
    rw [Node.tag?_strip, named, Option.map_some]
  · intro pair member
    obtain ⟨name, inside, stripped⟩ := Node.exists_of_mem_attributes_strip member
    obtain ⟨source, given, -, known⟩ :=
      Scope.exists_of_attributes? resolves.attributes (name, pair.2) inside
    obtain ⟨declarable, legal⟩ := sound.attributes (source, pair.2) given
    have token := declarable.isNameToken_splitLabel
    rw [← stripped, strippable.stripName_attributeName? token.noBraces known]
    exact ⟨token, legal⟩

namespace Node

variable {text : String} {tree : Node String}

end Node

end VectorScene.Markup
