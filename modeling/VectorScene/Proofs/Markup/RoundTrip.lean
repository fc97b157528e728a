import VectorScene.Proofs.Markup.Document
import VectorScene.Proofs.Markup.Plain

/-!
# Trees read back

The text of a plain tree is read as the tree again.  An empty text is read as an
absent one, the tail of the root is dropped, and line ends in texts become line
feeds.
-/

namespace VectorScene.Markup

/-! ## Changes of texts -/

/-- An empty text is settled as an absent one, and all others are kept. -/
theorem settle_eq_filter (text : Option String) : settle text = text.filter (· ≠ "") := by
  cases text with
  | none => rfl
  | some content =>
      rw [settle, optionalText, Option.getD_some, Option.filter_some, String.ofList_toList]
      by_cases empty : content = ""
      · rw [empty]
        rfl
      · have full : ¬content.toList.isEmpty = true := by
          intro nothing
          exact empty (String.toList_eq_nil_iff.1 (List.isEmpty_iff.1 nothing))
        rw [if_neg full, if_pos (decide_eq_true empty)]

/-- Line ends are kept in a text without carriage returns. -/
theorem unifyLines_eq_self {content : String} (noReturn : '\r' ∉ content.toList) :
    unifyLines (some content) = some content := by
  have kept := normalizeLines_append noReturn []
  rw [List.append_nil, normalizeLines, List.append_nil] at kept
  rw [unifyLines, Option.map_some, kept, String.ofList_toList]

namespace Node

variable {change other : Option String → Option String}

mutual

/-- Changes that agree on the texts of a tree change it alike. -/
theorem mapText_congr (absent : change none = other none) (node : Node String)
    (same : ∀ text ∈ node.texts, change (some text) = other (some text)) :
    node.mapText change = node.mapText other := by
  have agree : ∀ content : Option String, (∀ text ∈ content.toList, text ∈ node.texts) →
      change content = other content := by
    intro content inside
    cases content with
    | none => exact absent
    | some text => exact same text (inside text (List.mem_singleton_self text))
  match node, same, agree with
  | .element tag attributes text children tail, same, agree =>
      have ofText := agree text fun content member => List.mem_append_left _ member
      have ofTail := agree tail fun content member =>
        List.mem_append_right _ (List.mem_append_right _ member)
      have inner := mapTextAll_congr absent children fun content member =>
        same content (List.mem_append_right _ (List.mem_append_left _ member))
      rw [mapText, mapText, ofText, ofTail, inner]
  | .remark kind content tail, same, agree =>
      rw [mapText, mapText, agree tail fun content member => member]

theorem mapTextAll_congr (absent : change none = other none) (nodes : List (Node String))
    (same : ∀ text ∈ textsAll nodes, change (some text) = other (some text)) :
    mapTextAll change nodes = mapTextAll other nodes := by
  match nodes, same with
  | [], _ => rfl
  | node :: rest, same =>
      have first := mapText_congr absent node fun text member =>
        same text (List.mem_append_left _ member)
      have later := mapTextAll_congr absent rest fun text member =>
        same text (List.mem_append_right _ member)
      rw [mapTextAll, mapTextAll, first, later]

end

theorem withTail_mapText (node : Node String) :
    (node.mapText change).withTail none = ((node.withTail none).mapText change).withTail none := by
  cases node <;> rfl

/-! ## Plain trees -/

/-- A plain tree needs no namespaces. -/
theorem exists_resolve_outermost {root : Node String} (plain : ∀ inner ∈ root.preorder, inner.Plain) :
    ∃ resolved, resolve? .outermost root = some resolved ∧ resolved.strip = root :=
  exists_resolve? rfl List.not_mem_nil List.not_mem_nil root plain

/-- The text of a plain tree is read as the tree with changed texts and no tail. -/
theorem parse_writeNode {root : Node String} (plain : ∀ inner ∈ root.preorder, inner.Plain)
    (legal : root.Legal) (spaces : OnlySpace root.tail) :
    parse (String.ofList (writeNode [] [] root)) =
      .ok ((root.mapText (settle ∘ unifyLines)).withTail none) := by
  obtain ⟨resolved, found, stripped⟩ := exists_resolve_outermost plain
  have named := fun inner member => (plain inner member).named
  rw [parse, String.toList_ofList, document?_writeNode named legal spaces, found, Option.map_some]
  simp only [strip_withTail, strip_mapText, stripped]

/-- A plain tree that is written is read again as the tree, if its texts hold no
carriage returns.  Empty texts become absent, and the white space after the root is
dropped. -/
theorem parse_write {root : Node String} (plain : ∀ inner ∈ root.preorder, inner.Plain)
    (legal : root.Legal) (noReturn : ∀ text ∈ (root.withTail none).texts, '\r' ∉ text.toList)
    (spaces : OnlySpace root.tail) :
    ∃ text, root.write = .ok text ∧
      parse text = .ok ((root.mapText fun content => content.filter (· ≠ "")).withTail none) := by
  have written := write_of_named fun inner member => (plain inner member).named
  have settled : ∀ text ∈ (root.withTail none).texts,
      (settle ∘ unifyLines) (some text) = (some text).filter (· ≠ "") := by
    intro text member
    rw [Function.comp_apply, unifyLines_eq_self (noReturn text member), settle_eq_filter]
  have absent : (settle ∘ unifyLines) none = Option.filter (· ≠ "") none := rfl
  refine ⟨_, written, ?_⟩
  rw [parse_writeNode plain legal spaces, withTail_mapText, mapText_congr absent _ settled,
    ← withTail_mapText]

/-- A tree with characters that have to be escaped, an empty text, and white space at
its end. -/
def escapedTree : Node String :=
  .element "svg" [("a", "\"<&>\t\n\r'"), ("b", "")] (some "]]>&amp;")
    [.element "g" [("b", "&#13;")] (some "") [] (some " \n")] (some " \r\n")

theorem parse_write_escaped :
    ∃ text, escapedTree.write = .ok text ∧
      parse text = .ok
        (.element "svg" [("a", "\"<&>\t\n\r'"), ("b", "")] (some "]]>&amp;")
          [.element "g" [("b", "&#13;")] none [] (some " \n")] none) := by
  have plain : ∀ inner ∈ escapedTree.preorder, inner.Plain := by
    refine List.forall_mem_cons.2 ⟨⟨⟨"svg", rfl, by decide⟩, by decide, by decide⟩, ?_⟩
    exact List.forall_mem_singleton.2 ⟨⟨"g", rfl, by decide⟩, by decide, by decide⟩
  have legal : escapedTree.Legal := by
    constructor
    · decide +kernel
    · decide +kernel
  have noReturn : ∀ text ∈ (escapedTree.withTail none).texts, '\r' ∉ text.toList := by decide
  have spaces : [' ', '\r', '\n'].all isSpace = true := by decide
  exact parse_write plain legal noReturn (List.all_eq_true.1 spaces)

end Node

end VectorScene.Markup
