import VectorScene.Proofs.Markup.Assembly

/-!
# Legal characters of written nodes

Escapes and names are made of legal characters, so a written tree holds an illegal
one only if one of its values or texts does.
-/

namespace VectorScene.Markup

/-! ## Characters -/

theorem isLegal_of_le {c : Char} (low : 0x20 ≤ c.toNat) (high : c.toNat ≤ 0xFFFD) :
    isLegal c = true := by
  simp [isLegal, low, high]

/-- A letter between two others of the first characters is legal. -/
theorem isLegal_of_letter {c first last : Char} (low : 0x20 ≤ first.toNat)
    (high : last.toNat ≤ 0xFFFD)
    (between : (decide (first ≤ c) && decide (c ≤ last)) = true) : isLegal c = true := by
  rw [Bool.and_eq_true, decide_eq_true_eq, decide_eq_true_eq] at between
  have above : first.toNat ≤ c.toNat := between.1
  have below : c.toNat ≤ last.toNat := between.2
  exact isLegal_of_le (Nat.le_trans low above) (Nat.le_trans below high)

theorem isLegal_of_inRanges {ranges : Array (Nat × Nat)} {c : Char} (high : 0x80 ≤ c.toNat)
    (bounded : ranges.all (fun range => range.2 ≤ 0xFFFD) = true)
    (within : inRanges ranges c.toNat = true) : isLegal c = true := by
  rw [inRanges, Array.any_eq_true'] at within
  obtain ⟨range, member, inside⟩ := within
  have last := of_decide_eq_true (Array.all_eq_true'.1 bounded range member)
  have below := of_decide_eq_true (Bool.and_eq_true_iff.1 inside).2
  exact isLegal_of_le (Nat.le_trans (by decide) high) (Nat.le_trans below last)

theorem isLegal_of_isNameStart {c : Char} (start : isNameStart c = true) : isLegal c = true := by
  simp only [isNameStart, Bool.or_eq_true] at start
  rcases start with ((lower | upper) | underscore) | beyond
  · exact isLegal_of_letter (by decide) (by decide) lower
  · exact isLegal_of_letter (by decide) (by decide) upper
  · rw [of_decide_eq_true underscore]
    rfl
  · obtain ⟨high, within⟩ := Bool.and_eq_true_iff.1 beyond
    exact isLegal_of_inRanges (of_decide_eq_true high) (by decide +kernel) within

/-- Names are made of legal characters. -/
theorem isLegal_of_isNameChar {c : Char} (named : isNameChar c = true) : isLegal c = true := by
  simp only [isNameChar, Bool.or_eq_true] at named
  rcases named with (((start | digit) | hyphen) | point) | beyond
  · exact isLegal_of_isNameStart start
  · rw [Text.isDigit] at digit
    exact isLegal_of_letter (by decide) (by decide) digit
  · rw [of_decide_eq_true hyphen]
    rfl
  · rw [of_decide_eq_true point]
    rfl
  · obtain ⟨high, within⟩ := Bool.and_eq_true_iff.1 beyond
    exact isLegal_of_inRanges (of_decide_eq_true high) (by decide +kernel) within

/-- A text whose characters are all legal. -/
def LegalText (text : List Char) : Prop :=
  ∀ c ∈ text, isLegal c = true

instance (text : List Char) : Decidable (LegalText text) :=
  List.decidableBAll (fun c => isLegal c = true) text

@[simp] theorem legalText_nil : LegalText [] :=
  List.forall_mem_nil _

@[simp] theorem legalText_cons {c : Char} {rest : List Char} :
    LegalText (c :: rest) ↔ isLegal c = true ∧ LegalText rest :=
  List.forall_mem_cons

@[simp] theorem legalText_append {first second : List Char} :
    LegalText (first ++ second) ↔ LegalText first ∧ LegalText second :=
  List.forall_mem_append

theorem LegalText.flatMap {α : Type} {items : List α} {write : α → List Char}
    (legal : ∀ item ∈ items, LegalText (write item)) : LegalText (items.flatMap write) := by
  intro c member
  obtain ⟨item, inside, written⟩ := List.mem_flatMap.1 member
  exact legal item inside c written

theorem legalText_escapeTextChar {c : Char} (legal : isLegal c = true) :
    LegalText (escapeTextChar c) := by
  rw [escapeTextChar]
  split_ifs
  · decide
  · decide
  · decide
  · exact legalText_cons.2 ⟨legal, legalText_nil⟩

theorem legalText_escapeText {text : List Char} (legal : LegalText text) :
    LegalText (escapeText text) :=
  .flatMap fun c member => legalText_escapeTextChar (legal c member)

theorem legalText_escapeValue {value : List Char} (legal : LegalText value) :
    LegalText (escapeValue value) := by
  refine .flatMap fun c member => ?_
  rw [escapeValueChar]
  split_ifs
  · decide
  · decide
  · decide
  · decide
  · exact legalText_escapeTextChar (legal c member)

theorem IsName.legalText {name : List Char} (isName : IsName name) : LegalText name := by
  intro c member
  rcases isName.isNameChar member with named | colon
  · exact isLegal_of_isNameChar named
  · rw [colon]
    rfl

/-! ## Parts of tags -/

theorem legalText_writeAttribute {pair : String × String} (isName : IsName pair.1.toList)
    (legal : LegalText pair.2.toList) : LegalText (writeAttribute [] pair) := by
  have space : LegalText [' '] := by decide
  have opening : LegalText ['=', '"'] := by decide
  have closing : LegalText ['"'] := by decide
  rw [writeAttribute, Labels.write_of_isName isName]
  exact legalText_append.2 ⟨legalText_append.2 ⟨legalText_append.2
    ⟨legalText_append.2 ⟨space, isName.legalText⟩, opening⟩, legalText_escapeValue legal⟩, closing⟩

theorem legalText_writeElement {tag attributes content : List Char} (ofTag : LegalText tag)
    (ofAttributes : LegalText attributes) (ofContent : LegalText content) (isEmpty : Bool) :
    LegalText (writeElement tag attributes content isEmpty) := by
  have bracket : isLegal '<' = true := rfl
  have opening := legalText_append.2 ⟨legalText_cons.2 ⟨bracket, ofTag⟩, ofAttributes⟩
  rw [writeElement]
  split
  · have single : LegalText " />".toList := by decide
    exact legalText_append.2 ⟨opening, single⟩
  · have between : isLegal '>' = true := rfl
    have closing : LegalText "</".toList := by decide
    have final : LegalText ['>'] := by decide
    have around := legalText_cons.2 ⟨between, ofContent⟩
    exact legalText_append.2 ⟨legalText_append.2 ⟨legalText_append.2
      ⟨legalText_append.2 ⟨opening, around⟩, closing⟩, ofTag⟩, final⟩

/-! ## Nodes -/

namespace Node

mutual

/-- The texts and tails of a tree in document order. -/
def texts : Node String → List String
  | .element _ _ text children tail => text.toList ++ (textsAll children ++ tail.toList)
  | .remark _ _ tail => tail.toList

/-- The texts and tails of a list of trees in document order. -/
def textsAll : List (Node String) → List String
  | [] => []
  | node :: rest => texts node ++ textsAll rest

end

/-- A tree whose values, texts and tails hold legal characters only. -/
structure Legal (node : Node String) : Prop where
  values : ∀ inner ∈ node.preorder, ∀ pair ∈ inner.attributes, LegalText pair.2.toList
  texts : ∀ text ∈ node.texts, LegalText text.toList

/-- A list of trees whose values, texts and tails hold legal characters only. -/
structure LegalAll (nodes : List (Node String)) : Prop where
  values : ∀ inner ∈ preorderAll nodes, ∀ pair ∈ inner.attributes, LegalText pair.2.toList
  texts : ∀ text ∈ textsAll nodes, LegalText text.toList

theorem Legal.children {tag : String} {attributes : Attributes String} {text tail : Option String}
    {children : List (Node String)}
    (legal : (Node.element tag attributes text children tail).Legal) : LegalAll children := by
  constructor
  · intro inner member
    exact legal.values inner (List.mem_cons_of_mem _ member)
  · intro content member
    exact legal.texts content (List.mem_append_right _ (List.mem_append_left _ member))

end Node

/-- A legal text is written legally. -/
theorem legalText_writeText {text : Option String}
    (legal : ∀ content ∈ text.toList, LegalText content.toList) : LegalText (writeText text) := by
  cases text with
  | none => exact legalText_nil
  | some content => exact legalText_escapeText (legal content (List.mem_singleton_self content))

mutual

/-- A tree with legal characters is written with legal characters. -/
theorem legalText_writeNode (node : Node String) (named : ∀ inner ∈ node.preorder, inner.Named)
    (legal : node.Legal) : LegalText (writeNode [] [] node) := by
  match node, named, legal with
  | .remark kind content tail, named, _ =>
      rw [Node.preorder] at named
      exact absurd (named _ (List.mem_singleton_self _)) (Node.not_named_remark kind content tail)
  | .element tag attributes text children tail, named, legal =>
      rw [Node.preorder] at named
      obtain ⟨isName, names⟩ := (named _ List.mem_cons_self).of_element
      have inner := legalText_writeNodes children
        (fun child member => named child (List.mem_cons_of_mem _ member)) legal.children
      have ofText := legalText_writeText fun content member =>
        legal.texts content (List.mem_append_left _ member)
      have ofTail := legalText_writeText fun content member =>
        legal.texts content (List.mem_append_right _ (List.mem_append_right _ member))
      have ofTag : LegalText (Labels.write [] tag) := by
        rw [Labels.write_of_isName isName]
        exact isName.legalText
      have ofAttributes : LegalText (attributes.flatMap (writeAttribute [])) :=
        .flatMap fun pair member =>
          legalText_writeAttribute (names pair member)
            (legal.values _ List.mem_cons_self pair member)
      have ofContent := legalText_append.2 ⟨ofText, inner⟩
      rw [writeNode, List.nil_append]
      exact legalText_append.2 ⟨legalText_writeElement ofTag ofAttributes ofContent _, ofTail⟩

/-- A list of trees with legal characters is written with legal characters. -/
theorem legalText_writeNodes (nodes : List (Node String))
    (named : ∀ inner ∈ Node.preorderAll nodes, inner.Named) (legal : Node.LegalAll nodes) :
    LegalText (writeNodes [] nodes) := by
  match nodes, named, legal with
  | [], _, _ => exact legalText_nil
  | node :: others, named, legal =>
      rw [Node.preorderAll] at named
      have first := legalText_writeNode node
        (fun inner member => named inner (List.mem_append_left _ member))
        ⟨fun inner member => legal.values inner (List.mem_append_left _ member),
          fun text member => legal.texts text (List.mem_append_left _ member)⟩
      have later := legalText_writeNodes others
        (fun inner member => named inner (List.mem_append_right _ member))
        ⟨fun inner member => legal.values inner (List.mem_append_right _ member),
          fun text member => legal.texts text (List.mem_append_right _ member)⟩
      exact legalText_append.2 ⟨first, later⟩

end

/-! ## Layout -/

namespace Node

theorem mem_texts_withTail {node : Node String} {tail text : String}
    (member : text ∈ (node.withTail (some tail)).texts) : text ∈ node.texts ∨ text = tail := by
  cases node with
  | element tag attributes content children old =>
      simp only [withTail, texts, List.mem_append, Option.toList_some, List.mem_singleton] at member ⊢
      rcases member with inContent | inChildren | last
      · exact .inl (.inl inContent)
      · exact .inl (.inr (.inl inChildren))
      · exact .inr last
  | remark kind content old =>
      simp only [withTail, texts, Option.toList_some, List.mem_singleton] at member
      exact .inr member

theorem mem_textsAll_closeLast {tail text : String} {nodes : List (Node String)}
    (member : text ∈ textsAll (closeLast tail nodes)) : text ∈ textsAll nodes ∨ text = tail := by
  induction nodes using closeLast.induct with
  | case1 => exact .inl member
  | case2 last =>
      simp only [closeLast, textsAll, List.append_nil] at member ⊢
      exact mem_texts_withTail member
  | case3 node next rest ih =>
      rw [closeLast, textsAll, List.mem_append] at member
      rw [textsAll, List.mem_append]
      rcases member with first | later
      · exact .inl (.inl first)
      · rcases ih later with before | last
        · exact .inl (.inr before)
        · exact .inr last

theorem mem_fillBlank {text : Option String} {filling content : String}
    (member : content ∈ (fillBlank text filling).toList) :
    content ∈ text.toList ∨ content = filling := by
  rw [fillBlank] at member
  split at member
  · exact .inr (List.mem_singleton.1 member)
  · exact .inl member

mutual

/-- The texts of a tree that is laid out are its own and line breaks. -/
theorem mem_texts_layout {tab : List Char} {level : Nat} (node : Node String) {text : String}
    (member : text ∈ (layout tab level node).texts) :
    text ∈ node.texts ∨ ∃ depth, text = lineBreak tab depth := by
  match node with
  | .element tag attributes content children tail =>
      simp only [layout, texts, List.mem_append] at member ⊢
      rcases member with inContent | inChildren | inTail
      · split at inContent
        · exact .inl (.inl inContent)
        · rcases mem_fillBlank inContent with old | filled
          · exact .inl (.inl old)
          · exact .inr ⟨_, filled⟩
      · rcases mem_textsAll_closeLast inChildren with inner | last
        · rcases mem_textsAll_layoutAll children inner with old | filled
          · exact .inl (.inr (.inl old))
          · exact .inr filled
        · exact .inr ⟨_, last⟩
      · split at inTail
        · exact .inl (.inr (.inr inTail))
        · rcases mem_fillBlank inTail with old | filled
          · exact .inl (.inr (.inr old))
          · exact .inr ⟨_, filled⟩
  | .remark kind content tail =>
      simp only [layout, texts] at member ⊢
      split at member
      · exact .inl member
      · rcases mem_fillBlank member with old | filled
        · exact .inl old
        · exact .inr ⟨_, filled⟩

theorem mem_textsAll_layoutAll {tab : List Char} {level : Nat} (nodes : List (Node String))
    {text : String} (member : text ∈ textsAll (layoutAll tab level nodes)) :
    text ∈ textsAll nodes ∨ ∃ depth, text = lineBreak tab depth := by
  match nodes with
  | [] => exact .inl member
  | node :: rest =>
      rw [layoutAll, textsAll, List.mem_append] at member
      rw [textsAll, List.mem_append]
      rcases member with first | later
      · rcases mem_texts_layout node first with old | filled
        · exact .inl (.inl old)
        · exact .inr filled
      · rcases mem_textsAll_layoutAll rest later with old | filled
        · exact .inl (.inr old)
        · exact .inr filled

end

end Node

theorem legalText_lineBreak {tab : List Char} (legal : LegalText tab) (depth : Nat) :
    LegalText (lineBreak tab depth).toList := by
  rw [lineBreak, String.toList_ofList, legalText_cons]
  refine ⟨rfl, ?_⟩
  intro c member
  obtain ⟨copy, inside, within⟩ := List.mem_flatten.1 member
  rw [List.eq_of_mem_replicate inside] at within
  exact legal c within

theorem legalText_tab {indent : Option Indent}
    (legal : ∀ tab, indent = some (.text tab) → LegalText tab.toList) :
    ∀ chosen ∈ indent, LegalText chosen.tab := by
  intro chosen member
  cases chosen with
  | text tab => exact legal tab member
  | spaces count =>
      intro c space
      rw [(List.mem_replicate.1 space).2]
      rfl

/-- A tree that is laid out with legal characters has legal characters. -/
theorem Node.Legal.indented {root : Node String} (legal : root.Legal) {indent : Option Indent}
    (tab : ∀ chosen ∈ indent, LegalText chosen.tab) : (root.indented indent).Legal := by
  constructor
  · intro inner member
    obtain ⟨other, inside, -, same⟩ := exists_mem_preorder (bare_indented indent root) member
    rw [← same]
    exact legal.values other inside
  · intro text member
    cases indent with
    | none => exact legal.texts text member
    | some chosen =>
        rcases mem_texts_layout root member with old | ⟨depth, filled⟩
        · exact legal.texts text old
        · rw [filled]
          exact legalText_lineBreak (tab chosen rfl) depth

end VectorScene.Markup
