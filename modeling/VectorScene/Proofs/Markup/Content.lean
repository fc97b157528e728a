import VectorScene.Proofs.Markup.Tag

/-!
# Events of written nodes

A written tree of elements is read as the events of the tree: a start and a
finish for every element, in document order, with the characters of all texts
between them.
-/

namespace VectorScene.Markup

variable {entities : Entities}

/-! ## Single tokens -/

theorem events?_nil : events? entities [] = some [] := by
  rw [events?, tokens?]
  rfl

/-- Taking one token off a text puts its events before those of the rest. -/
theorem events?_step {text rest : List Char} {tokens : List Token} {happening : List (List Event)}
    (found : step? text = some (tokens, rest))
    (replaced : tokens.mapM (Token.events? entities entities.declared.length) = some happening) :
    events? entities text = (events? entities rest).map (happening.flatten ++ ·) := by
  have nonempty : ¬text.isEmpty = true := by
    intro empty
    rw [List.isEmpty_iff.1 empty] at found
    cases found
  have taken : tokens? text = (tokens? rest).map (tokens ++ ·) := by
    rw [tokens?, if_neg nonempty]
    split
    next tokens' rest' found' =>
      rw [found] at found'
      simp only [Option.some.injEq, Prod.mk.injEq] at found'
      rw [found'.1, found'.2]
    next missing =>
      rw [found] at missing
      cases missing
  rw [events?, events?, taken]
  cases tokens? rest with
  | none => rfl
  | some others =>
      simp only [Option.map_some, Option.bind_some, List.mapM_append, replaced]
      cases others.mapM (Token.events? entities entities.declared.length) with
      | none => rfl
      | some following =>
          simp

theorem step?_openTag {c : Char} (start : isNameStart c = true) (rest : List Char) :
    step? ('<' :: c :: rest) = openTag? (c :: rest) := by
  have slash : c ≠ '/' := ne_of_isNameStart start rfl
  have bang : c ≠ '!' := ne_of_isNameStart start rfl
  have question : c ≠ '?' := ne_of_isNameStart start rfl
  simp [step?, slash, bang, question]

theorem step?_closeTag (rest : List Char) : step? ('<' :: '/' :: rest) = closeTag? rest := rfl

/-- A written character of a text is one token, unless it stands where the mark
that ends verbatim text would. -/
theorem step?_escapeTextChar {c : Char} {rest : List Char}
    (unmarked : after? [']', ']', '>'] (c :: rest) = none) :
    step? (escapeTextChar c ++ rest) = some ([.piece (textPiece c)], rest) := by
  rw [escapeTextChar, textPiece]
  split_ifs with amp lt gt
  · simp [step?, reference?_amp]
  · simp [step?, reference?_lt]
  · simp [step?, reference?_gt]
  · simp [step?, amp, lt, unmarked]

/-! ## Texts -/

/-- The end of a text: nothing or a tag follows. -/
def AtTag (text : List Char) : Prop :=
  ∀ c ∈ text.head?, c = '<'

theorem atTag_nil : AtTag [] := by
  intro c member
  cases member

theorem atTag_cons (rest : List Char) : AtTag ('<' :: rest) := by
  intro c member
  rw [List.head?_cons, Option.mem_def, Option.some.injEq] at member
  exact member.symm

theorem after?_eq_append {mark text rest : List Char} (found : after? mark text = some rest) :
    text = mark ++ rest := by
  induction mark generalizing text with
  | nil => exact Option.some.inj found
  | cons m mark ih =>
      cases text with
      | nil => cases found
      | cons c text =>
          rw [after?] at found
          split at found
          next same => rw [ih found, same, List.cons_append]
          next => cases found

/-- A written text up to a tag does not start with a closing angle bracket. -/
theorem escapeText_ne_bracket {rest : List Char} (ends : AtTag rest) (text after : List Char) :
    escapeText text ++ rest ≠ '>' :: after := by
  intro same
  cases text with
  | nil =>
      have bracket := ends '>' (by rw [show rest = '>' :: after from same]; rfl)
      cases bracket
  | cons c text =>
      rw [escapeText, List.flatMap_cons, escapeTextChar] at same
      split_ifs at same with amp lt gt
      · cases same
      · cases same
      · cases same
      · exact gt (List.cons.inj same).1

/-- A written text up to a tag holds no mark that ends verbatim text. -/
theorem after?_escapeText {rest : List Char} (ends : AtTag rest) (c : Char) (text : List Char) :
    after? [']', ']', '>'] (c :: (escapeText text ++ rest)) = none := by
  cases found : after? [']', ']', '>'] (c :: (escapeText text ++ rest)) with
  | none => rfl
  | some after =>
      have same : escapeText text ++ rest = ']' :: '>' :: after :=
        (List.cons.inj (after?_eq_append found)).2
      cases text with
      | nil =>
          have bracket := ends ']' (by rw [show rest = ']' :: '>' :: after from same]; rfl)
          cases bracket
      | cons d text =>
          rw [escapeText, List.flatMap_cons, escapeTextChar] at same
          split_ifs at same
          · cases same
          · cases same
          · cases same
          · exact absurd (List.cons.inj same).2 (escapeText_ne_bracket ends text after)

/-- A written text is read as its characters. -/
theorem events?_escapeText {rest : List Char} (ends : AtTag rest) (text : List Char) :
    events? entities (escapeText text ++ rest) =
      (events? entities rest).map (text.map textEvent ++ ·) := by
  induction text with
  | nil =>
      rw [escapeText, List.flatMap_nil, List.nil_append]
      exact Option.map_id'.symm
  | cons c text ih =>
      have found := step?_escapeTextChar (after?_escapeText ends c text)
      have replaced : [Token.piece (textPiece c)].mapM
          (Token.events? entities entities.declared.length) = some [[textEvent c]] := by
        simp [events?_textPiece]
      have split : escapeText (c :: text) ++ rest =
          escapeTextChar c ++ (escapeText text ++ rest) := by
        rw [escapeText, List.flatMap_cons, List.append_assoc]
        rfl
      rw [split, events?_step found replaced, ih, Option.map_map]
      rfl

/-! ## Nodes -/

/-- What happens where a text that may be absent was written. -/
def textEvents (text : Option String) : List Event :=
  (text.getD "").toList.map textEvent

theorem events?_writeText {rest : List Char} (ends : AtTag rest) (text : Option String) :
    events? entities (writeText text ++ rest) =
      (events? entities rest).map (textEvents text ++ ·) :=
  events?_escapeText ends _

namespace Node

/-- An element whose tag and attributes have names that can be written. -/
structure Named (node : Node String) : Prop where
  tag : ∃ tag, node.tag? = some tag ∧ IsName tag.toList
  attributes : ∀ pair ∈ node.attributes, IsName pair.1.toList

theorem Named.of_element {tag : String} {attributes : Attributes String} {text tail : Option String}
    {children : List (Node String)}
    (named : (Node.element tag attributes text children tail).Named) :
    IsName tag.toList ∧ ∀ pair ∈ attributes, IsName pair.1.toList := by
  obtain ⟨_, tagged, isName⟩ := named.tag
  cases tagged
  exact ⟨isName, named.attributes⟩

theorem not_named_remark (kind : Remark) (content : String) (tail : Option String) :
    ¬(Node.remark kind content tail).Named := by
  intro named
  obtain ⟨_, tagged, -⟩ := named.tag
  cases tagged

mutual

/-- What happens where a tree of elements was written. -/
def events : Node String → List Event
  | .element tag attributes text children tail =>
      .start tag.toList (attributes.map fun (name, value) => (name.toList, value.toList)) ::
        (textEvents text ++ (eventsAll children ++ .finish tag.toList :: textEvents tail))
  | .remark _ _ tail => textEvents tail

/-- What happens where a list of trees was written. -/
def eventsAll : List (Node String) → List Event
  | [] => []
  | node :: rest => events node ++ eventsAll rest

end

end Node

/-- A written node starts with an opening angle bracket. -/
theorem writeNode_eq_cons (labels : Labels) (declarations : List Char) (node : Node String) :
    ∃ text, writeNode labels declarations node = '<' :: text := by
  cases node with
  | element tag attributes text children tail =>
      rw [writeNode, writeElement]
      split
      · exact ⟨_, rfl⟩
      · exact ⟨_, rfl⟩
  | remark kind content tail =>
      cases kind with
      | comment => exact ⟨_, rfl⟩
      | instruction => exact ⟨_, rfl⟩

theorem atTag_writeNodes (nodes : List (Node String)) {rest : List Char} (ends : AtTag rest) :
    AtTag (writeNodes [] nodes ++ rest) := by
  cases nodes with
  | nil => exact ends
  | cons node others =>
      obtain ⟨text, same⟩ := writeNode_eq_cons [] [] node
      rw [writeNodes, same]
      exact atTag_cons _

/-- An element without content is written as a single tag. -/
theorem writeNode_single {tag : String} {text : Option String} {children : List (Node String)}
    (isName : IsName tag.toList) (empty : (children.isEmpty && (text.getD "").isEmpty) = true)
    (attributes : Attributes String) (tail : Option String) (rest : List Char) :
    writeNode [] [] (.element tag attributes text children tail) ++ rest =
      '<' :: (tag.toList ++ attributes.flatMap (writeAttribute []) ++
        ' ' :: '/' :: '>' :: (writeText tail ++ rest)) := by
  simp [writeNode, writeElement, empty, Labels.write_of_isName isName]

/-- An element with content is written as two tags around it. -/
theorem writeNode_around {tag : String} {text : Option String} {children : List (Node String)}
    (isName : IsName tag.toList) (full : ¬(children.isEmpty && (text.getD "").isEmpty) = true)
    (attributes : Attributes String) (tail : Option String) (rest : List Char) :
    writeNode [] [] (.element tag attributes text children tail) ++ rest =
      '<' :: (tag.toList ++ attributes.flatMap (writeAttribute []) ++
        '>' :: (writeText text ++ (writeNodes [] children ++
          '<' :: '/' :: (tag.toList ++ '>' :: (writeText tail ++ rest))))) := by
  simp [writeNode, writeElement, full, Labels.write_of_isName isName]

/-- The opening tag of an element starts it. -/
theorem events?_open {tag : String} {attributes : Attributes String} (isName : IsName tag.toList)
    (names : ∀ pair ∈ attributes, IsName pair.1.toList) (rest : List Char) :
    events? entities
        ('<' :: (tag.toList ++ attributes.flatMap (writeAttribute []) ++ '>' :: rest)) =
      (events? entities rest).map
        (.start tag.toList (attributes.map fun (name, value) => (name.toList, value.toList)) :: ·) := by
  obtain ⟨c, name, same, start⟩ := isName.eq_cons
  have found := openTag?_written isName names rest
  rw [same, List.cons_append, List.cons_append, ← step?_openTag start, ← same] at found
  have replaced : [Token.openTag tag.toList (attributePieces attributes)].mapM
      (Token.events? entities entities.declared.length) =
        some [[.start tag.toList
          (attributes.map fun (name, value) => (name.toList, value.toList))]] := by
    simp [events?_openTag]
  rw [same, List.cons_append, List.cons_append, events?_step found replaced, same]
  rfl

/-- The closing tag of an element finishes it. -/
theorem events?_close {tag : String} (isName : IsName tag.toList) (rest : List Char) :
    events? entities ('<' :: '/' :: (tag.toList ++ '>' :: rest)) =
      (events? entities rest).map (.finish tag.toList :: ·) := by
  have found := closeTag?_written isName rest
  rw [← step?_closeTag] at found
  have replaced : [Token.closeTag tag.toList].mapM
      (Token.events? entities entities.declared.length) = some [[.finish tag.toList]] := by
    simp [Token.events?]
  rw [events?_step found replaced]
  rfl

/-- The tag of an empty element starts and finishes it. -/
theorem events?_openClose {tag : String} {attributes : Attributes String}
    (isName : IsName tag.toList) (names : ∀ pair ∈ attributes, IsName pair.1.toList)
    (rest : List Char) :
    events? entities
        ('<' :: (tag.toList ++ attributes.flatMap (writeAttribute []) ++ ' ' :: '/' :: '>' :: rest)) =
      (events? entities rest).map fun following =>
        .start tag.toList (attributes.map fun (name, value) => (name.toList, value.toList)) ::
          .finish tag.toList :: following := by
  obtain ⟨c, name, same, start⟩ := isName.eq_cons
  have found := openTag?_empty isName names rest
  rw [same, List.cons_append, List.cons_append, ← step?_openTag start, ← same] at found
  have replaced : [Token.openTag tag.toList (attributePieces attributes),
      Token.closeTag tag.toList].mapM (Token.events? entities entities.declared.length) =
        some [[.start tag.toList
          (attributes.map fun (name, value) => (name.toList, value.toList))],
          [.finish tag.toList]] := by
    simp [events?_openTag, Token.events?]
  rw [same, List.cons_append, List.cons_append, events?_step found replaced, same]
  rfl

mutual

/-- A written tree is read as its events. -/
theorem events?_writeNode (node : Node String) (named : ∀ inner ∈ node.preorder, inner.Named)
    {rest : List Char} (ends : AtTag rest) :
    events? entities (writeNode [] [] node ++ rest) =
      (events? entities rest).map (node.events ++ ·) := by
  match node, named with
  | .remark kind content tail, named =>
      rw [Node.preorder] at named
      exact absurd (named _ (List.mem_singleton_self _)) (Node.not_named_remark kind content tail)
  | .element tag attributes text children tail, named =>
      rw [Node.preorder] at named
      obtain ⟨isName, names⟩ := (named _ List.mem_cons_self).of_element
      have inner := fun child member => named child (List.mem_cons_of_mem _ member)
      by_cases empty : (children.isEmpty && (text.getD "").isEmpty) = true
      · obtain ⟨noChildren, noText⟩ := Bool.and_eq_true_iff.1 empty
        have nothing : textEvents text = [] := by
          rw [textEvents, String.isEmpty_iff.1 noText]
          rfl
        rw [writeNode_single isName empty, events?_openClose isName names, events?_writeText ends, Option.map_map]
        rw [Node.events, nothing, List.isEmpty_iff.1 noChildren, Node.eventsAll]
        rfl
      · have afterContent := atTag_cons ('/' :: (tag.toList ++ '>' :: (writeText tail ++ rest)))
        rw [writeNode_around isName empty, events?_open isName names,
          events?_writeText (atTag_writeNodes children afterContent),
          events?_writeNodes children inner afterContent, events?_close isName,
          events?_writeText ends]
        simp only [Option.map_map, Node.events]
        congr 1
        funext following
        simp

/-- A written list of trees is read as its events. -/
theorem events?_writeNodes (nodes : List (Node String))
    (named : ∀ inner ∈ Node.preorderAll nodes, inner.Named) {rest : List Char}
    (ends : AtTag rest) :
    events? entities (writeNodes [] nodes ++ rest) =
      (events? entities rest).map (Node.eventsAll nodes ++ ·) := by
  match nodes, named with
  | [], _ =>
      rw [writeNodes, Node.eventsAll, List.nil_append]
      exact Option.map_id'.symm
  | node :: others, named =>
      rw [Node.preorderAll] at named
      have first := fun inner member => named inner (List.mem_append_left _ member)
      have later := fun inner member => named inner (List.mem_append_right _ member)
      rw [writeNodes, List.append_assoc, events?_writeNode node first (atTag_writeNodes others ends),
        events?_writeNodes others later ends, Option.map_map, Node.eventsAll]
      congr 1
      funext following
      simp

end

end VectorScene.Markup
