import VectorScene.Markup.Assembly
import VectorScene.Proofs.Markup.Event

/-!
# Trees from legal events

Legal events are assembled into elements with qualified names, whose attributes have names of
the same kind as those of the events, and into texts that are legal and not empty.  No text
follows the root of a document.
-/

namespace VectorScene.Markup

/-- An element with a qualified tag and legal values, and with names of some kind for its
attributes. -/
structure Node.Sound (named : List Char → Prop) (node : Node String) : Prop where
  tag : ∃ tag, node.tag? = some tag ∧ Qualified tag.toList
  attributes : ∀ pair ∈ node.attributes, named pair.1.toList ∧ LegalText pair.2.toList

/-- Trees of sound elements whose texts and tails are legal and not empty. -/
structure Node.SoundAll (named : List Char → Prop) (nodes : List (Node String)) : Prop where
  elements : ∀ inner ∈ preorderAll nodes, inner.Sound named
  texts : ∀ text ∈ textsAll nodes, LegalText text.toList ∧ text ≠ ""

/-- A level with legal text in front of sound trees. -/
structure Level.Sound (named : List Char → Prop) (level : Level) : Prop where
  lead : LegalText level.lead
  nodes : Node.SoundAll named level.nodes

section

variable {named : List Char → Prop}

theorem Level.Sound.addText {level : Level} (sound : level.Sound named) {content : List Char}
    (legal : LegalText content) : (level.addText content).Sound named :=
  ⟨legalText_append.2 ⟨legal, sound.lead⟩, sound.nodes⟩

theorem forall_optionalText {content : List Char} (legal : LegalText content) :
    ∀ text ∈ (optionalText content).toList, LegalText text.toList ∧ text ≠ "" := by
  rw [optionalText]
  split
  · exact List.forall_mem_nil _
  next full =>
    refine List.forall_mem_singleton.2 ⟨?_, ?_⟩
    · rw [String.toList_ofList]
      exact legal
    · intro empty
      rw [← String.toList_eq_nil_iff, String.toList_ofList] at empty
      exact full (List.isEmpty_iff.2 empty)

theorem Level.Sound.addElement {level inner : Level} (sound : level.Sound named)
    (innerSound : inner.Sound named) {name : List Char}
    {attributes : List (List Char × List Char)}
    (legal : (Event.start name attributes).Legal named) :
    (level.addElement name attributes inner).Sound named := by
  refine ⟨legalText_nil, ?_, ?_⟩
  · have element : (Node.element (String.ofList name)
        (attributes.map fun pair => (String.ofList pair.1, String.ofList pair.2))
        (optionalText inner.lead) inner.nodes (optionalText level.lead)).Sound named := by
      constructor
      · refine ⟨_, rfl, ?_⟩
        rw [String.toList_ofList]
        exact legal.1
      · refine List.forall_mem_map.2 fun pair member => ?_
        rw [String.toList_ofList, String.toList_ofList]
        exact legal.2 pair member
    exact List.forall_mem_append.2
      ⟨List.forall_mem_cons.2 ⟨element, innerSound.nodes.elements⟩, sound.nodes.elements⟩
  · have tail := forall_optionalText sound.lead
    have content := List.forall_mem_append.2 ⟨innerSound.nodes.texts, tail⟩
    exact List.forall_mem_append.2
      ⟨List.forall_mem_append.2 ⟨forall_optionalText innerSound.lead, content⟩, sound.nodes.texts⟩

/-- Levels whose outermost one, the document, holds no text. -/
def Closed (levels : List Level) : Prop :=
  ∀ document ∈ levels.getLast?, document.lead = [] ∧ ∀ node ∈ document.nodes, node.tail = none

theorem closed_singleton {document : Level} :
    Closed [document] ↔ document.lead = [] ∧ ∀ node ∈ document.nodes, node.tail = none := by
  simp [Closed]

theorem closed_cons {level next : Level} {outer : List Level} :
    Closed (level :: next :: outer) ↔ Closed (next :: outer) := by
  rw [Closed, Closed, List.getLast?_cons_cons]

theorem Closed.addElement {level : Level} {outer : List Level} (closed : Closed (level :: outer))
    (name : List Char) (attributes : List (List Char × List Char)) (inner : Level) :
    Closed (level.addElement name attributes inner :: outer) := by
  cases outer with
  | nil =>
      -- The text behind the element would be that of the document, which has none.
      obtain ⟨noLead, noTails⟩ := closed_singleton.1 closed
      refine closed_singleton.2 ⟨rfl, List.forall_mem_cons.2 ⟨?_, noTails⟩⟩
      rw [Node.tail, noLead]
      rfl
  | cons next outer =>
      rw [closed_cons] at closed ⊢
      exact closed

end

end VectorScene.Markup
