import VectorScene.Proofs.Markup.Parsed
import VectorScene.Proofs.Markup.RoundTrip

/-!
# Documents written again

A tree that is read can be written again.  Reading the result gives the tree with its
line ends replaced, unless an attribute of the tree has lost its label and become a
declaration, or no name at all.  So the tree comes back exactly when no text holds a
carriage return, no attribute declares a namespace, and all attributes have names.
-/

namespace VectorScene.Markup

/-! ## Line ends -/

/-- Replacing line ends leaves no text empty that was not. -/
theorem settle_unifyLines {content : String} (filled : content ≠ "") :
    settle (unifyLines (some content)) = unifyLines (some content) := by
  have stays : String.ofList (normalizeLines content.toList) ≠ "" := by
    intro empty
    rw [← String.toList_eq_nil_iff, String.toList_ofList, normalizeLines_eq_nil] at empty
    exact filled (String.toList_eq_nil_iff.1 empty)
  rw [settle_eq_filter]
  exact Option.filter_some_pos (decide_eq_true stays)

namespace Node

section

variable {change : Option String → Option String}

mutual

theorem mapText_id (node : Node String) : node.mapText id = node := by
  match node with
  | .element tag attributes text children tail =>
      rw [mapText, mapTextAll_id children]
      rfl
  | .remark kind content tail => rfl

theorem mapTextAll_id (nodes : List (Node String)) : mapTextAll id nodes = nodes := by
  match nodes with
  | [] => rfl
  | node :: rest => rw [mapTextAll, mapText_id node, mapTextAll_id rest]

end

mutual

/-- The texts of a tree with changed texts are results of the change. -/
theorem exists_of_mem_texts_mapText (node : Node String) :
    ∀ content ∈ (node.mapText change).texts, ∃ text, change text = some content := by
  match node with
  | .element tag attributes text children tail =>
      refine List.forall_mem_append.2 ⟨?_, List.forall_mem_append.2 ⟨?_, ?_⟩⟩
      · intro content member
        exact ⟨text, Option.mem_toList.1 member⟩
      · exact exists_of_mem_textsAll_mapTextAll children
      · intro content member
        exact ⟨tail, Option.mem_toList.1 member⟩
  | .remark kind content tail =>
      intro content member
      exact ⟨tail, Option.mem_toList.1 member⟩

theorem exists_of_mem_textsAll_mapTextAll (nodes : List (Node String)) :
    ∀ content ∈ textsAll (mapTextAll change nodes), ∃ text, change text = some content := by
  match nodes with
  | [] => exact List.forall_mem_nil _
  | node :: rest =>
      exact List.forall_mem_append.2
        ⟨exists_of_mem_texts_mapText node, exists_of_mem_textsAll_mapTextAll rest⟩

end

end

theorem withTail_tail (node : Node String) : node.withTail node.tail = node := by
  cases node <;> rfl

/-! ## Declarations -/

/-- A tree in which no attribute declares a default namespace. -/
def Undeclared (root : Node String) : Prop :=
  ∀ inner ∈ root.preorder, "xmlns" ∉ inner.attributes.names

namespace ReadTree

variable {tree : Node String}

theorem named (read : tree.ReadTree) (plainNames : ∀ inner ∈ tree.preorder, inner.PlainNames) :
    ∀ inner ∈ tree.preorder, inner.Named :=
  fun inner member => (read.elements inner member).named (plainNames inner member)

/-- What is read can be written, be its names plain or not. -/
theorem write (read : tree.ReadTree) :
    tree.write = .ok (String.ofList (writeNode [] [] tree)) := by
  refine write_of_not_mem fun inner inside name member => ?_
  have known := read.elements inner inside
  rcases List.mem_append.1 member with tagged | given
  · obtain ⟨tag, same, plain⟩ := known.tag
    rw [same, Option.toList_some, List.mem_singleton] at tagged
    rw [tagged]
    exact (noBraces_of_isPlainName plain).opens
  · obtain ⟨pair, present, rfl⟩ := List.mem_map.1 given
    exact (known.attributes pair present).1.noBraces.opens

theorem onlySpace (read : tree.ReadTree) : OnlySpace tree.tail := by
  rw [read.tail]
  exact onlySpace_none

/-- A tree of plain names without declarations that is written is read with its line ends
replaced. -/
theorem parse_writeNode (read : tree.ReadTree) (undeclared : tree.Undeclared)
    (plainNames : ∀ inner ∈ tree.preorder, inner.PlainNames) :
    parse (String.ofList (writeNode [] [] tree)) = .ok (tree.mapText unifyLines) := by
  have plain : ∀ inner ∈ tree.preorder, inner.Plain :=
    fun inner member =>
      (read.elements inner member).plain (plainNames inner member) (undeclared inner member)
  have absent : (settle ∘ unifyLines) none = unifyLines none := rfl
  have filled : ∀ text ∈ tree.texts,
      (settle ∘ unifyLines) (some text) = unifyLines (some text) :=
    fun text member => settle_unifyLines (read.texts text member).2
  have noTail : (tree.mapText unifyLines).tail = none := by
    rw [tail_mapText, read.tail]
    rfl
  rw [Node.parse_writeNode plain read.legal read.onlySpace, mapText_congr absent tree filled,
    ← noTail, withTail_tail]

end ReadTree

end Node

end VectorScene.Markup
