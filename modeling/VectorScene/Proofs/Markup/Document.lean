import VectorScene.Markup.Document
import VectorScene.Proofs.Markup.Completion
import VectorScene.Proofs.Markup.Legal
import VectorScene.Proofs.Markup.Line

/-!
# Written documents read back

A document of elements whose names need no namespace is written without
declarations, and is read as a document without a prolog.  Only its texts may
change on the way.
-/

namespace VectorScene.Markup

/-! ## The front of a document -/

/-- Before an element that comes first there is no prolog. -/
theorem prolog?_element {c : Char} (start : isNameStart c = true) (rest : List Char) :
    prolog? ('<' :: c :: rest) = some (.empty, '<' :: c :: rest) := by
  have bang : '!' ≠ c := (ne_of_isNameStart start rfl).symm
  have question : '?' ≠ c := (ne_of_isNameStart start rfl).symm
  have noVersion : after? "<?xml".toList ('<' :: c :: rest) = none := by
    simp [after?, question]
  have noComment : after? "<!--".toList ('<' :: c :: rest) = none := by
    simp [after?, bang]
  have noInstruction : after? ['<', '?'] ('<' :: c :: rest) = none := by
    simp [after?, question]
  have noType : after? "<!DOCTYPE".toList ('<' :: c :: rest) = none := by
    simp [after?, bang]
  have noRemark : afterRemark? ('<' :: c :: rest) = none := by
    rw [afterRemark?, afterComment?, afterInstruction?, noComment, noInstruction]
    rfl
  have kept : skipRemarks ('<' :: c :: rest) = '<' :: c :: rest := by
    rw [skipRemarks, if_neg (by decide)]
    split
    next found =>
      rw [noRemark] at found
      cases found
    next => rfl
  rw [prolog?, versionDeclaration?, noVersion]
  simp only [Option.bind_some, kept, noType]

theorem dropByteOrderMark_element (rest : List Char) :
    dropByteOrderMark ('<' :: rest) = '<' :: rest := by
  rw [dropByteOrderMark, if_neg (by decide)]

/-- A written element starts with an angle bracket and its tag. -/
theorem writeNode_eq_cons_cons {root : Node String}
    (tagged : ∃ tag, root.tag? = some tag ∧ IsName tag.toList) :
    ∃ c rest, writeNode [] [] root = '<' :: c :: rest ∧ isNameStart c = true := by
  match root, tagged with
  | .element tag attributes text children tail, ⟨_, rfl, isName⟩ =>
      obtain ⟨c, name, same, start⟩ := isName.eq_cons
      by_cases empty : (children.isEmpty && (text.getD "").isEmpty) = true
      · have written := writeNode_single isName empty attributes tail []
        rw [List.append_nil, same] at written
        exact ⟨c, _, written, start⟩
      · have written := writeNode_around isName empty attributes tail []
        rw [List.append_nil, same] at written
        exact ⟨c, _, written, start⟩

/-- A name is in no namespace. -/
theorem IsName.openBrace_not_mem {name : List Char} (isName : IsName name) : openBrace ∉ name := by
  intro member
  have outside : ¬(Markup.isNameChar openBrace = true ∨ openBrace = ':') := by decide
  exact outside (isName.isNameChar member)

namespace Node

/-! ## Whole documents -/

theorem mem_preorder (node : Node String) : node ∈ node.preorder := by
  cases node with
  | element => exact List.mem_cons_self
  | remark => exact List.mem_singleton_self _

/-- Nodes whose elements have the same names can be written likewise. -/
theorem forall_named {first second : Node String} (same : first.bare = second.bare)
    (named : ∀ inner ∈ first.preorder, inner.Named) :
    ∀ inner ∈ second.preorder, inner.Named := by
  intro inner member
  obtain ⟨other, inside, tags, attributes⟩ := exists_mem_preorder same.symm member
  have known := named other inside
  constructor
  · rw [← tags]
    exact known.tag
  · rw [← attributes]
    exact known.attributes

theorem tail_mapText {change : Option String → Option String} (node : Node String) :
    (node.mapText change).tail = change node.tail := by
  cases node <;> rfl

theorem resolve?_withTail (scope : Scope) (node : Node String) (tail : Option String) :
    resolve? scope (node.withTail tail) = (resolve? scope node).map (·.withTail tail) := by
  cases node with
  | element tag attributes text children old =>
      rw [withTail, resolve?, resolve?]
      cases scope.enter attributes with
      | none => rfl
      | some inner =>
          simp only [Option.bind_some]
          cases inner.tag? tag with
          | none => rfl
          | some name =>
              simp only [Option.bind_some]
              cases inner.attributes? attributes with
              | none => rfl
              | some resolved =>
                  simp only [Option.bind_some, Option.map_map]
                  rfl
  | remark kind content old => rfl

/-- The text of a tree is a document, if only white space follows the tree.  It is
the tree with changed texts and no tail, if all its namespaces are known. -/
theorem document?_writeNode {root : Node String} (named : ∀ inner ∈ root.preorder, inner.Named)
    (legal : root.Legal) (spaces : OnlySpace root.tail) :
    document? (writeNode [] [] root) =
      (resolve? .outermost root).map fun resolved =>
        (resolved.mapText (settle ∘ unifyLines)).withTail none := by
  obtain ⟨c, rest, written, start⟩ := writeNode_eq_cons_cons (named root root.mem_preorder).tag
  have sameNames : root.bare = (root.mapText unifyLines).bare := (bare_mapText root).symm
  have unified := forall_named sameNames named
  have lines : normalizeLines (writeNode [] [] root) =
      writeNode [] [] (root.mapText unifyLines) := by
    have appended := normalizeLines_writeNode root named atTag_nil
    rwa [List.append_nil, normalizeLines, List.append_nil] at appended
  have read : events? ⟨[], false⟩ (writeNode [] [] (root.mapText unifyLines)) =
      some (root.mapText unifyLines).events := by
    have appended : events? ⟨[], false⟩ (writeNode [] [] (root.mapText unifyLines) ++ []) =
        (events? ⟨[], false⟩ []).map ((root.mapText unifyLines).events ++ ·) :=
      events?_writeNode _ unified atTag_nil
    rwa [List.append_nil, events?_nil, Option.map_some, List.append_nil] at appended
  have assembled : root? (root.mapText unifyLines).events =
      some ((root.mapText unifyLines).settled.withTail none) :=
    root?_events unified (by rw [tail_mapText]; exact spaces.unifyLines)
  have allLegal : (writeNode [] [] root).all isLegal = true :=
    List.all_eq_true.2 (legalText_writeNode root named legal)
  have noProlog : prolog? (writeNode [] [] (root.mapText unifyLines)) =
      some (.empty, writeNode [] [] (root.mapText unifyLines)) := by
    obtain ⟨c, rest, written, start⟩ := writeNode_eq_cons_cons (unified _ (mem_preorder _)).tag
    rw [written]
    exact prolog?_element start rest
  have noMark : dropByteOrderMark (writeNode [] [] root) = writeNode [] [] root := by
    rw [written]
    exact dropByteOrderMark_element (c :: rest)
  have admitted : Doctype.empty.admits (byteCount (writeNode [] [] root))
      (writeNode [] [] (root.mapText unifyLines)) = true := rfl
  rw [document?, source?, noMark]
  simp only [allLegal, if_true, lines, noProlog, Option.bind_some, admitted,
    Doctype.events?_empty, read, assembled]
  rw [settled, mapText_mapText, resolve?_withTail, resolve?_mapText, Option.map_map]
  rfl

theorem splitName_of_not_mem {name : String} (free : openBrace ∉ name.toList) :
    splitName name = .ok (none, name) := by
  rw [splitName]
  split
  next => rfl
  next c rest same =>
    rw [same, List.mem_cons, not_or] at free
    rw [if_neg (Ne.symm free.1)]

/-- Names without a namespace need no label. -/
theorem foldlM_register {names : List String} (free : ∀ name ∈ names, openBrace ∉ name.toList) :
    names.foldlM Labels.register [] = .ok [] := by
  induction names with
  | nil => rfl
  | cons name rest ih =>
      rw [List.forall_mem_cons] at free
      rw [List.foldlM_cons, Labels.register, splitName_of_not_mem free.1]
      exact ih free.2

/-- A tree of names without a namespace is written without declarations, whatever else the
names are. -/
theorem write_of_not_mem {root : Node String}
    (free : ∀ inner ∈ root.preorder, ∀ name ∈ inner.tag?.toList ++ inner.attributes.names,
      openBrace ∉ name.toList) :
    root.write = .ok (String.ofList (writeNode [] [] root)) := by
  have unlabelled : Labels.ofNode root = .ok [] := by
    refine foldlM_register fun name member => ?_
    obtain ⟨inner, inside, within⟩ := List.mem_flatMap.1 member
    exact free inner inside name within
  have undeclared : Labels.declarations [] = [] := by
    rw [Labels.declarations, List.mergeSort_nil]
    rfl
  rw [write, unlabelled, ← undeclared]
  rfl

theorem write_of_named {root : Node String} (named : ∀ inner ∈ root.preorder, inner.Named) :
    root.write = .ok (String.ofList (writeNode [] [] root)) := by
  refine write_of_not_mem fun inner inside name member => ?_
  have known := named inner inside
  rcases List.mem_append.1 member with tagged | given
  · obtain ⟨tag, same, isName⟩ := known.tag
    rw [same, Option.toList_some, List.mem_singleton] at tagged
    rw [tagged]
    exact isName.openBrace_not_mem
  · obtain ⟨pair, present, rfl⟩ := List.mem_map.1 given
    exact (known.attributes pair present).openBrace_not_mem

theorem tail_indented (indent : Option Indent) (root : Node String) :
    (root.indented indent).tail = root.tail := by
  cases indent with
  | none => rfl
  | some indent => cases root <;> rfl

theorem strip_withTail (node : Node String) (tail : Option String) :
    (node.withTail tail).strip = node.strip.withTail tail := by
  cases node <;> rfl

/-- A document that is rendered is read again as its stripped elements, whatever
their indentation. -/
theorem exists_parse_render {root resolved : Node String}
    (named : ∀ inner ∈ root.preorder, inner.Named) (legal : root.Legal)
    (spaces : OnlySpace root.tail) (known : resolve? .outermost root.bare = some resolved)
    {indent : Option Indent} (tab : ∀ chosen ∈ indent, LegalText chosen.tab) :
    ∃ text tree, root.render indent = .ok text ∧ parse text = .ok tree ∧
      tree.bare = resolved.strip := by
  have namedAgain := forall_named (bare_indented indent root).symm named
  have spacesAgain : OnlySpace (root.indented indent).tail := by
    rw [tail_indented]
    exact spaces
  have read := document?_writeNode namedAgain (legal.indented tab) spacesAgain
  have knownAgain : (resolve? .outermost (root.indented indent)).map bare = some resolved := by
    rw [← known, ← bare_indented indent root]
    exact (resolve?_mapText _ _).symm
  obtain ⟨inner, found, same⟩ := Option.map_eq_some_iff.1 knownAgain
  rw [found, Option.map_some] at read
  refine ⟨_, ((inner.mapText (settle ∘ unifyLines)).withTail none).strip,
    write_of_named namedAgain, ?_, ?_⟩
  · rw [parse, String.toList_ofList, read]
  · rw [strip_withTail, bare_withTail, strip_mapText, bare_mapText, ← same, bare, bare,
      strip_mapText]

end Node

end VectorScene.Markup
