import VectorScene.Proofs.Markup.Assembly

/-!
# Line ends of written nodes

Replacing line ends changes a written tree only in its texts and tails, because
values are written without line ends.
-/

namespace VectorScene.Markup

/-! ## Characters -/

theorem normalizeLines_cons {c : Char} (other : c ≠ '\r') (rest : List Char) :
    normalizeLines (c :: rest) = c :: normalizeLines rest := by
  rw [normalizeLines]
  · intro following same
    exact absurd same other
  · exact other

/-- A text without carriage returns is kept. -/
theorem normalizeLines_append {text : List Char} (noReturn : '\r' ∉ text) (rest : List Char) :
    normalizeLines (text ++ rest) = text ++ normalizeLines rest := by
  induction text with
  | nil => rfl
  | cons c text ih =>
      rw [List.mem_cons, not_or] at noReturn
      rw [List.cons_append, normalizeLines_cons (Ne.symm noReturn.1), ih noReturn.2]
      rfl

theorem normalizeLines_eq_nil {text : List Char} : normalizeLines text = [] ↔ text = [] := by
  constructor
  · intro same
    cases text with
    | nil => rfl
    | cons c rest =>
        rw [normalizeLines.eq_def] at same
        split at same
        · cases same
        · cases same
        · cases same
        · assumption
  · rintro rfl
    rfl

/-- Replacing line ends brings in line feeds at most. -/
theorem mem_normalizeLines {c : Char} {text : List Char} (member : c ∈ normalizeLines text) :
    c ∈ text ∨ c = '\n' := by
  induction text using normalizeLines.induct with
  | case1 text ih =>
      rw [normalizeLines] at member
      rcases List.mem_cons.1 member with same | later
      · exact .inr same
      · exact (ih later).imp_left fun inside =>
          List.mem_cons_of_mem _ (List.mem_cons_of_mem _ inside)
  | case2 text notPair ih =>
      rw [normalizeLines.eq_2 _ notPair] at member
      rcases List.mem_cons.1 member with same | later
      · exact .inr same
      · exact (ih later).imp_left (List.mem_cons_of_mem _)
  | case3 first text notPair other ih =>
      rw [normalizeLines_cons other] at member
      rcases List.mem_cons.1 member with rfl | later
      · exact .inl List.mem_cons_self
      · exact (ih later).imp_left (List.mem_cons_of_mem _)
  | case4 => exact .inl member

theorem return_not_mem_escapeTextChar {c : Char} (other : c ≠ '\r') :
    '\r' ∉ escapeTextChar c := by
  rw [escapeTextChar]
  split_ifs
  · decide
  · decide
  · decide
  · rw [List.mem_singleton]
    exact Ne.symm other

/-- Line ends can be replaced before a text is written or after. -/
theorem normalizeLines_escapeText {rest : List Char} (ends : AtTag rest) (text : List Char) :
    normalizeLines (escapeText text ++ rest) =
      escapeText (normalizeLines text) ++ normalizeLines rest := by
  induction text using normalizeLines.induct with
  | case1 text ih => exact congrArg ('\n' :: ·) ih
  | case2 text notPair ih =>
      have alone : ∀ following, escapeText text ++ rest ≠ '\n' :: following := by
        intro following same
        cases text with
        | nil =>
            have bracket := ends '\n' (by rw [show rest = '\n' :: following from same]; rfl)
            cases bracket
        | cons c text =>
            rw [escapeText, List.flatMap_cons, escapeTextChar] at same
            split_ifs at same with amp lt gt
            · cases same
            · cases same
            · cases same
            · exact notPair text (by rw [(List.cons.inj same).1])
      rw [normalizeLines.eq_2 _ notPair]
      exact (normalizeLines.eq_2 _ alone).trans (congrArg ('\n' :: ·) ih)
  | case3 c text notPair other ih =>
      have split (text : List Char) :
          escapeText (c :: text) = escapeTextChar c ++ escapeText text := rfl
      rw [normalizeLines_cons other, split, split, List.append_assoc, List.append_assoc,
        normalizeLines_append (return_not_mem_escapeTextChar other), ih]
  | case4 => rfl

/-! ## Nodes -/

/-- A text with line ends replaced. -/
def unifyLines (text : Option String) : Option String :=
  text.map fun content => String.ofList (normalizeLines content.toList)

theorem toList_unifyLines (text : Option String) :
    ((unifyLines text).getD "").toList = normalizeLines (text.getD "").toList := by
  cases text with
  | none => rfl
  | some content => exact String.toList_ofList

theorem isEmpty_unifyLines (text : Option String) :
    ((unifyLines text).getD "").isEmpty = (text.getD "").isEmpty := by
  rw [Bool.eq_iff_iff, String.isEmpty_iff, String.isEmpty_iff, ← String.toList_eq_nil_iff,
    ← String.toList_eq_nil_iff, toList_unifyLines, normalizeLines_eq_nil]

theorem OnlySpace.unifyLines {text : Option String} (spaces : OnlySpace text) :
    OnlySpace (unifyLines text) := by
  intro c member
  rw [toList_unifyLines] at member
  rcases mem_normalizeLines member with old | rfl
  · exact spaces c old
  · rfl

theorem normalizeLines_writeText {rest : List Char} (ends : AtTag rest) (text : Option String) :
    normalizeLines (writeText text ++ rest) =
      writeText (unifyLines text) ++ normalizeLines rest := by
  rw [writeText, writeText, toList_unifyLines, normalizeLines_escapeText ends]

theorem return_not_mem_escapeValue (value : List Char) : '\r' ∉ escapeValue value := by
  rw [escapeValue, List.mem_flatMap]
  rintro ⟨c, -, member⟩
  rw [escapeValueChar] at member
  split_ifs at member with quote return_
  · revert member
    decide
  · revert member
    decide
  · revert member
    decide
  · revert member
    decide
  · exact return_not_mem_escapeTextChar return_ member

theorem IsName.return_not_mem {name : List Char} (isName : IsName name) : '\r' ∉ name := by
  intro member
  rcases isName.isNameChar member with named | colon
  · cases named
  · cases colon

/-- The tag of an element is written without carriage returns. -/
theorem return_not_mem_opening {tag : String} {attributes : Attributes String}
    (isName : IsName tag.toList) (names : ∀ pair ∈ attributes, IsName pair.1.toList) :
    '\r' ∉ '<' :: (tag.toList ++ attributes.flatMap (writeAttribute [])) := by
  have inAttribute : '\r' ∉ attributes.flatMap (writeAttribute []) := by
    rw [List.mem_flatMap]
    rintro ⟨pair, member, inside⟩
    have nameless := (names pair member).return_not_mem
    have valueless := return_not_mem_escapeValue pair.2.toList
    rw [writeAttribute, Labels.write_of_isName (names pair member)] at inside
    simp [nameless, valueless] at inside
  simp [isName.return_not_mem, inAttribute]

mutual

/-- Line ends can be replaced before a tree is written or after. -/
theorem normalizeLines_writeNode (node : Node String)
    (named : ∀ inner ∈ node.preorder, inner.Named) {rest : List Char} (ends : AtTag rest) :
    normalizeLines (writeNode [] [] node ++ rest) =
      writeNode [] [] (node.mapText unifyLines) ++ normalizeLines rest := by
  match node, named with
  | .remark kind content tail, named =>
      rw [Node.preorder] at named
      exact absurd (named _ (List.mem_singleton_self _)) (Node.not_named_remark kind content tail)
  | .element tag attributes text children tail, named =>
      rw [Node.preorder] at named
      obtain ⟨isName, names⟩ := (named _ List.mem_cons_self).of_element
      have inner := fun child member => named child (List.mem_cons_of_mem _ member)
      have opening := normalizeLines_append (return_not_mem_opening isName names)
      have same : ((Node.mapTextAll unifyLines children).isEmpty &&
          ((unifyLines text).getD "").isEmpty) = (children.isEmpty && (text.getD "").isEmpty) := by
        rw [isEmpty_unifyLines, Node.mapTextAll_eq_map, List.isEmpty_map]
      rw [Node.mapText]
      by_cases empty : (children.isEmpty && (text.getD "").isEmpty) = true
      · have stays := same.trans empty
        have mark : '\r' ∉ [' ', '/', '>'] := by decide
        have closing := normalizeLines_append mark (writeText tail ++ rest)
        rw [writeNode_single isName empty, writeNode_single isName stays]
        refine (opening _).trans (congrArg _ ?_)
        exact closing.trans (congrArg _ (normalizeLines_writeText ends tail))
      · have stays : ¬((Node.mapTextAll unifyLines children).isEmpty &&
            ((unifyLines text).getD "").isEmpty) = true := same ▸ empty
        have bracket : '\r' ∉ ['>'] := by decide
        have slash : '\r' ∉ ['<', '/'] := by decide
        have afterContent := atTag_cons ('/' :: (tag.toList ++ '>' :: (writeText tail ++ rest)))
        have closed : normalizeLines ('>' :: (writeText tail ++ rest)) =
            '>' :: (writeText (unifyLines tail) ++ normalizeLines rest) :=
          (normalizeLines_append bracket _).trans
            (congrArg _ (normalizeLines_writeText ends tail))
        have closing : normalizeLines ('<' :: '/' :: (tag.toList ++ '>' :: (writeText tail ++ rest))) =
            '<' :: '/' :: (tag.toList ++ '>' ::
              (writeText (unifyLines tail) ++ normalizeLines rest)) := by
          refine (normalizeLines_append slash _).trans (congrArg _ ?_)
          exact (normalizeLines_append isName.return_not_mem _).trans (congrArg _ closed)
        have content : normalizeLines (writeText text ++ (writeNodes [] children ++
            '<' :: '/' :: (tag.toList ++ '>' :: (writeText tail ++ rest)))) =
              writeText (unifyLines text) ++ (writeNodes [] (Node.mapTextAll unifyLines children) ++
                '<' :: '/' :: (tag.toList ++ '>' ::
                  (writeText (unifyLines tail) ++ normalizeLines rest))) := by
          rw [normalizeLines_writeText (atTag_writeNodes children afterContent),
            normalizeLines_writeNodes children inner afterContent, closing]
        rw [writeNode_around isName empty, writeNode_around isName stays]
        refine (opening _).trans (congrArg _ ?_)
        exact (normalizeLines_append bracket _).trans (congrArg _ content)

theorem normalizeLines_writeNodes (nodes : List (Node String))
    (named : ∀ inner ∈ Node.preorderAll nodes, inner.Named) {rest : List Char}
    (ends : AtTag rest) :
    normalizeLines (writeNodes [] nodes ++ rest) =
      writeNodes [] (Node.mapTextAll unifyLines nodes) ++ normalizeLines rest := by
  match nodes, named with
  | [], _ => rfl
  | node :: others, named =>
      rw [Node.preorderAll] at named
      have first := fun inner member => named inner (List.mem_append_left _ member)
      have later := fun inner member => named inner (List.mem_append_right _ member)
      rw [writeNodes, List.append_assoc,
        normalizeLines_writeNode node first (atTag_writeNodes others ends),
        normalizeLines_writeNodes others later ends, Node.mapTextAll, writeNodes,
        List.append_assoc]

end

end VectorScene.Markup
