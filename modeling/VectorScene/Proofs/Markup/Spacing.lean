import Mathlib.Data.List.Chain
import VectorScene.Markup.Writer
import VectorScene.Proofs.Markup.Layout
import VectorScene.Proofs.Run

/-!
# Lines of indented trees

Laying out a tree that has only blanks between its tags puts a line break before every child
and before the end of every node with children, each indented by the depth of what follows.
In the written text these line breaks are all that stands there.
-/

namespace VectorScene.Markup

namespace Node

variable {α : Type} {tab : List Char} {depth : Nat}

mutual

/-- A node and all its descendants in document order, each with its depth. -/
def depths (depth : Nat) : Node α → List (Nat × Node α)
  | .element tag attributes text children tail =>
      (depth, .element tag attributes text children tail) :: depthsAll (depth + 1) children
  | .remark kind content tail => [(depth, .remark kind content tail)]

/-- The nodes of a list and all their descendants in document order, each with its depth. -/
def depthsAll (depth : Nat) : List (Node α) → List (Nat × Node α)
  | [] => []
  | node :: rest => depths depth node ++ depthsAll depth rest

end

/-- Only blanks stand before, between and after the children of a node. -/
structure HoldsBlanks (node : Node α) : Prop where
  text : node.children ≠ [] → isBlankText node.text = true
  tails : ∀ child ∈ node.children, isBlankText child.tail = true

instance [DecidableEq α] (node : Node α) : Decidable node.HoldsBlanks :=
  decidable_of_iff
    ((node.children ≠ [] → isBlankText node.text = true) ∧
      ∀ child ∈ node.children, isBlankText child.tail = true)
    ⟨fun both => ⟨both.1, both.2⟩, fun holds => ⟨holds.text, holds.tails⟩⟩

/-- Each child of a node at a depth stands on a line of its own, indented one level deeper,
and so does the end of the node at its own depth. -/
structure LaidOut (tab : List Char) (depth : Nat) (node : Node α) : Prop where
  text : node.children ≠ [] → node.text = some (lineBreak tab (depth + 1))
  between : ∀ child ∈ node.children.dropLast, child.tail = some (lineBreak tab (depth + 1))
  last : ∀ child ∈ node.children.getLast?, child.tail = some (lineBreak tab depth)

/-! ## Texts and tails -/

theorem mem_depthsAll {nodes : List (Node α)} {entry : Nat × Node α} :
    entry ∈ depthsAll depth nodes ↔ ∃ node ∈ nodes, entry ∈ node.depths depth := by
  induction nodes with
  | nil => simp [depthsAll]
  | cons node rest ih => simp [depthsAll, ih]

theorem fillBlank_of_blank {text : Option String} (blank : isBlankText text = true)
    (filling : String) : fillBlank text filling = some filling :=
  if_pos blank

/-- Whether the inside of a node is laid out does not depend on its tail. -/
theorem forall_depths_withTail {node : Node α} (tail : Option String)
    (laidOut : ∀ entry ∈ node.depths depth, entry.2.LaidOut tab entry.1) :
    ∀ entry ∈ (node.withTail tail).depths depth, entry.2.LaidOut tab entry.1 := by
  cases node with
  | element tag attributes text children other =>
      simp only [withTail, depths, List.forall_mem_cons] at laidOut ⊢
      refine ⟨?_, laidOut.2⟩
      exact ⟨laidOut.1.text, laidOut.1.between, laidOut.1.last⟩
  | remark kind content other =>
      simp only [withTail, depths, List.forall_mem_singleton] at laidOut ⊢
      exact ⟨laidOut.text, laidOut.between, laidOut.last⟩

/-- The children of a laid out node have their tails. -/
theorem laidOut_element {text : Option String} {children : List (Node α)}
    (blanks : ∀ child ∈ children, isBlankText child.tail = true)
    (filled : children ≠ [] → text = some (lineBreak tab (depth + 1)))
    (tag : String) (attributes : Attributes α) (tail : Option String) :
    LaidOut tab depth (.element tag attributes text
      (closeLast (lineBreak tab depth) (layoutAll tab (depth + 1) children)) tail) := by
  rcases children.eq_nil_or_concat' with rfl | ⟨front, last, rfl⟩
  · exact ⟨fun present => absurd rfl present, nofun, nofun⟩
  · simp only [layoutAll_eq_map, List.map_append, List.map_cons, List.map_nil, closeLast_concat]
    refine ⟨fun _ => filled (by simp), ?_, ?_⟩
    · intro child member
      simp only [Node.children, List.dropLast_concat, List.mem_map] at member
      obtain ⟨original, inside, rfl⟩ := member
      rw [tail_layout, if_neg (Nat.succ_ne_zero depth)]
      apply fillBlank_of_blank
      exact blanks original (List.mem_append_left _ inside)
    · intro child member
      simp only [Node.children, List.getLast?_concat, Option.mem_some_iff] at member
      rw [← member, tail_withTail]

mutual

/-- Every node of a laid out tree is laid out at its depth. -/
theorem laidOut_layout (depth : Nat) (node : Node α)
    (blanks : ∀ inner ∈ node.preorder, inner.HoldsBlanks) :
    ∀ entry ∈ (layout tab depth node).depths depth, entry.2.LaidOut tab entry.1 := by
  match node with
  | .element tag attributes text children tail =>
      rw [preorder, List.forall_mem_cons] at blanks
      obtain ⟨outer, inner⟩ := blanks
      rw [layout, depths, List.forall_mem_cons]
      constructor
      · apply laidOut_element outer.tails
        intro present
        exact (if_neg (mt List.isEmpty_iff.1 present)).trans
          (fillBlank_of_blank (outer.text present) _)
      · have laidOut := laidOut_layoutAll (depth + 1) children inner
        rcases children.eq_nil_or_concat' with rfl | ⟨front, last, rfl⟩
        · exact nofun
        · intro entry member
          simp only [layoutAll_eq_map, List.map_append, List.map_cons, List.map_nil,
            closeLast_concat, mem_depthsAll, List.mem_append, List.mem_singleton] at laidOut member
          obtain ⟨child, inFront | rfl, inside⟩ := member
          · exact laidOut entry ⟨child, .inl inFront, inside⟩
          · apply forall_depths_withTail _ _ entry inside
            exact fun entry inside => laidOut entry ⟨_, .inr rfl, inside⟩
  | .remark kind content tail =>
      rw [layout, depths, List.forall_mem_singleton]
      exact ⟨fun present => absurd rfl present, nofun, nofun⟩

theorem laidOut_layoutAll (depth : Nat) (nodes : List (Node α))
    (blanks : ∀ inner ∈ preorderAll nodes, inner.HoldsBlanks) :
    ∀ entry ∈ depthsAll depth (layoutAll tab depth nodes), entry.2.LaidOut tab entry.1 := by
  match nodes with
  | [] => exact nofun
  | node :: rest =>
      rw [preorderAll, List.forall_mem_append] at blanks
      rw [layoutAll, depthsAll, List.forall_mem_append]
      exact ⟨laidOut_layout depth node blanks.1, laidOut_layoutAll depth rest blanks.2⟩

end

end Node

/-! ## Written parts -/

/-- A part of a written document: what starts a node at a depth, the closing tag of a node at
a depth, which may be a parent, or the text between two of these. -/
inductive Part where
  | opening (depth : Nat) (markup : List Char)
  | closing (depth : Nat) (isParent : Bool) (markup : List Char)
  | content (written : List Char)

namespace Part

/-- The text of a part. -/
def text : Part → List Char
  | .opening _ markup => markup
  | .closing _ _ markup => markup
  | .content written => written

/-- A start of a node and a closing tag of a parent come after a line break and the
indentation of their depth, with nothing else before these up to the previous tag. -/
def OnOwnLine (tab : List Char) (previous next : Part) : Prop :=
  match next with
  | .opening depth _ => previous = .content (lineBreak tab depth).toList
  | .closing depth true _ => previous = .content (lineBreak tab depth).toList
  | _ => True

end Part

namespace Node

mutual

/-- The parts that a node is written in, without its tail. -/
def parts (labels : Labels) (declarations : List Char) (depth : Nat) : Node String → List Part
  | .element tag attributes text children _ =>
      let name := labels.write tag
      let pairs := declarations ++ attributes.flatMap (writeAttribute labels)
      if children.isEmpty && (text.getD "").isEmpty then
        [.opening depth ('<' :: name ++ pairs ++ " />".toList)]
      else
        .opening depth ('<' :: name ++ pairs ++ ['>']) :: .content (writeText text) ::
          (partsAll labels (depth + 1) children ++
            [.closing depth (!children.isEmpty) ("</".toList ++ name ++ ['>'])])
  | .remark kind content _ => [.opening depth (writeRemark kind content)]

/-- The parts that a list of nodes is written in, each with its tail. -/
def partsAll (labels : Labels) (depth : Nat) : List (Node String) → List Part
  | [] => []
  | node :: rest =>
      parts labels [] depth node ++ .content (writeText node.tail) :: partsAll labels depth rest

end

/-- The parts that a document is written in. -/
def documentParts (labels : Labels) (root : Node String) : List Part :=
  parts labels labels.declarations 0 root ++ [.content (writeText root.tail)]

mutual

/-- The parts of a node make up its written form. -/
theorem flatMap_text_parts (labels : Labels) (declarations : List Char) (depth : Nat)
    (node : Node String) :
    (parts labels declarations depth node).flatMap Part.text ++ writeText node.tail =
      writeNode labels declarations node := by
  match node with
  | .element tag attributes text children tail =>
      have inner := flatMap_text_partsAll labels (depth + 1) children
      rw [parts, writeNode, writeElement]
      split
      · simp [Part.text, Node.tail]
      · simp [Part.text, Node.tail, inner]
  | .remark kind content tail => simp [parts, writeNode, Part.text, Node.tail]

theorem flatMap_text_partsAll (labels : Labels) (depth : Nat) (nodes : List (Node String)) :
    (partsAll labels depth nodes).flatMap Part.text = writeNodes labels nodes := by
  match nodes with
  | [] => rfl
  | node :: rest =>
      have first := flatMap_text_parts labels [] depth node
      have later := flatMap_text_partsAll labels depth rest
      rw [partsAll, writeNodes, ← first, ← later]
      simp [Part.text]

end

/-! ## Lines -/

section

variable {tab : List Char} (plain : ∀ c ∈ tab, c ≠ '&' ∧ c ≠ '<' ∧ c ≠ '>')

include plain

/-- A line break without characters that are escaped is written as it is. -/
theorem writeText_lineBreak (depth : Nat) :
    writeText (some (lineBreak tab depth)) = (lineBreak tab depth).toList := by
  have single (c : Char) (member : c ∈ (lineBreak tab depth).toList) : escapeTextChar c = [c] := by
    have unescaped : c ≠ '&' ∧ c ≠ '<' ∧ c ≠ '>' := by
      simp only [lineBreak, String.toList_ofList, List.mem_cons, List.mem_flatten,
        List.mem_replicate] at member
      rcases member with rfl | ⟨_, ⟨-, rfl⟩, inside⟩
      · decide
      · exact plain c inside
    simp [escapeTextChar, unescaped]
  rw [writeText, escapeText, Option.getD_some, List.flatMap_congr single, List.flatMap_singleton']

omit plain in
theorem isChain_concat_content {parts : List Part} (chain : parts.IsChain (Part.OnOwnLine tab))
    (written : List Char) : (parts ++ [Part.content written]).IsChain (Part.OnOwnLine tab) := by
  rw [List.isChain_append]
  refine ⟨chain, List.isChain_singleton _, ?_⟩
  rintro _ - _ ⟨⟩
  trivial

mutual

/-- The parts of a laid out node after its own line break stand on lines of their own. -/
theorem isChain_parts (labels : Labels) (declarations : List Char) (depth : Nat)
    (node : Node String) (laidOut : ∀ entry ∈ node.depths depth, entry.2.LaidOut tab entry.1) :
    List.IsChain (Part.OnOwnLine tab)
      (.content (lineBreak tab depth).toList :: parts labels declarations depth node) := by
  match node with
  | .element tag attributes text children tail =>
      rw [depths, List.forall_mem_cons] at laidOut
      obtain ⟨outer, inner⟩ := laidOut
      rw [parts]
      split
      · exact List.isChain_pair.2 rfl
      · refine List.isChain_cons_cons.2 ⟨rfl, List.isChain_cons_cons.2 ⟨trivial, ?_⟩⟩
        cases children with
        | nil => exact List.isChain_pair.2 trivial
        | cons first rest =>
            rw [show text = some (lineBreak tab (depth + 1)) from outer.text nofun,
              writeText_lineBreak plain]
            exact isChain_partsAll labels depth (first :: rest) _ inner outer.between outer.last
  | .remark kind content tail => exact List.isChain_pair.2 rfl

theorem isChain_partsAll (labels : Labels) (depth : Nat) (nodes : List (Node String))
    (markup : List Char)
    (laidOut : ∀ entry ∈ depthsAll (depth + 1) nodes, entry.2.LaidOut tab entry.1)
    (between : ∀ node ∈ nodes.dropLast, node.tail = some (lineBreak tab (depth + 1)))
    (last : ∀ node ∈ nodes.getLast?, node.tail = some (lineBreak tab depth)) :
    List.IsChain (Part.OnOwnLine tab)
      (.content (lineBreak tab (depth + 1)).toList ::
        (partsAll labels (depth + 1) nodes ++ [.closing depth (!nodes.isEmpty) markup])) := by
  match nodes with
  | [] => exact List.isChain_pair.2 trivial
  | [node] =>
      rw [depthsAll, List.forall_mem_append] at laidOut
      have front := isChain_parts labels [] (depth + 1) node laidOut.1
      have tail := last node rfl
      rw [partsAll, tail, writeText_lineBreak plain, List.append_assoc, List.cons_append,
        List.isChain_cons_split]
      exact ⟨isChain_concat_content front _, List.isChain_pair.2 rfl⟩
  | node :: next :: rest =>
      rw [depthsAll, List.forall_mem_append] at laidOut
      rw [List.dropLast_cons_cons, List.forall_mem_cons] at between
      rw [List.getLast?_cons_cons] at last
      have front := isChain_parts labels [] (depth + 1) node laidOut.1
      have later := isChain_partsAll labels depth (next :: rest) markup laidOut.2 between.2 last
      rw [partsAll, between.1, writeText_lineBreak plain, List.append_assoc, List.cons_append,
        List.isChain_cons_split]
      exact ⟨isChain_concat_content front _, later⟩

end

end

/-! ## Documents -/

/-- The parts of a document make up its written form. -/
theorem write_eq_ok {root : Node String} {text : String} (written : root.write = .ok text) :
    ∃ labels, Labels.ofNode root = .ok labels ∧
      text.toList = (documentParts labels root).flatMap Part.text := by
  obtain ⟨labels, collected, same⟩ := map_eq_ok.1 written
  refine ⟨labels, collected, ?_⟩
  rw [← same, String.toList_ofList, ← flatMap_text_parts labels labels.declarations 0 root,
    documentParts, List.flatMap_append, List.flatMap_singleton]
  rfl

/-- Where a tree holds only blanks around the children of each node, its layout puts all
children and the ends of their parents on lines of their own, indented by their depth.  If the
tab holds no character that is escaped, then so do the tags of the written document: what
comes before the start of any node but the root, and before the closing tag of a node with
children, is a line break with the tabs of its depth, and nothing else up to the previous
tag. -/
theorem indented_onOwnLine {root : Node String} (indent : Indent)
    (blanks : ∀ inner ∈ root.preorder, inner.HoldsBlanks) :
    (∀ entry ∈ (root.indented (some indent)).depths 0, entry.2.LaidOut indent.tab entry.1) ∧
      ((∀ c ∈ indent.tab, c ≠ '&' ∧ c ≠ '<' ∧ c ≠ '>') →
        ∀ text, root.render (some indent) = .ok text →
          ∃ labels, Labels.ofNode (root.indented (some indent)) = .ok labels ∧
            text.toList =
              (documentParts labels (root.indented (some indent))).flatMap Part.text ∧
            (documentParts labels (root.indented (some indent))).IsChain
              (Part.OnOwnLine indent.tab)) := by
  have laidOut := @laidOut_layout _ indent.tab 0 root blanks
  refine ⟨laidOut, ?_⟩
  intro plain text written
  obtain ⟨labels, collected, same⟩ := write_eq_ok written
  refine ⟨labels, collected, same, ?_⟩
  apply isChain_concat_content
  exact (isChain_parts plain labels labels.declarations 0 _ laidOut).tail

/-- A drawing with a title, a comment and an empty group. -/
def titledDrawing : Node String :=
  .element "svg" [] none
    [.element "title" [] (some "a ") [] none,
     .element "g" [] (some " ") [.element "g" [] none [] (some "\n"), .remark .comment "b" none]
       (some "")]
    (some "c")

/-- A tab that is no white space indents as well. -/
theorem indented_onOwnLine_titled :
    (∀ inner ∈ titledDrawing.preorder, inner.HoldsBlanks) ∧
      titledDrawing.render (some (.text "-")) =
        .ok "<svg>\n-<title>a </title>\n-<g>\n--<g />\n--<!--b-->\n-</g>\n</svg>c" ∧
      (documentParts [] (titledDrawing.indented (some (.text "-")))).IsChain
        (Part.OnOwnLine ['-']) := by
  have blanks : ∀ inner ∈ titledDrawing.preorder, inner.HoldsBlanks := by decide
  have written : titledDrawing.render (some (.text "-")) =
      .ok "<svg>\n-<title>a </title>\n-<g>\n--<g />\n--<!--b-->\n-</g>\n</svg>c" := by
    decide +kernel
  have tab : Indent.tab (.text "-") = ['-'] := by decide
  have plain : ∀ c ∈ Indent.tab (.text "-"), c ≠ '&' ∧ c ≠ '<' ∧ c ≠ '>' := by
    rw [tab]
    exact List.forall_mem_singleton.2 (by decide)
  have none : Labels.ofNode (titledDrawing.indented (some (.text "-"))) = .ok [] := by
    decide +kernel
  obtain ⟨-, lines⟩ := indented_onOwnLine (.text "-") blanks
  obtain ⟨labels, collected, -, chain⟩ := lines plain _ written
  cases collected.symm.trans none
  exact ⟨blanks, written, chain⟩

end Node

end VectorScene.Markup
