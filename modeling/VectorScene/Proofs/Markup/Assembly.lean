import VectorScene.Markup.Assembly
import VectorScene.Proofs.Markup.Content
import VectorScene.Proofs.Markup.Text

/-!
# Trees assembled from their events

The events of a tree are assembled into the tree again.  A text without characters
is absent in the assembled tree.
-/

namespace VectorScene.Markup

/-- A text as it is assembled. -/
def settle (text : Option String) : Option String :=
  optionalText (text.getD "").toList

/-- A tree as it is assembled. -/
def Node.settled (node : Node String) : Node String :=
  node.mapText settle

theorem map_ofList_toList (attributes : Attributes String) :
    (attributes.map fun (name, value) => (name.toList, value.toList)).map
      (fun (name, value) => (String.ofList name, String.ofList value)) = attributes := by
  rw [List.map_map]
  exact (List.map_congr_left fun pair _ => by simp).trans (List.map_id attributes)

section

variable {rest : List Event} {level next : Level} {outer : List Level}

/-- Inside of an element, a character is put in front whether it was escaped or
not. -/
theorem attach?_textEvent (c : Char) :
    (textEvent c).attach? (level :: next :: outer) = some (level.addText [c] :: next :: outer) := by
  rw [textEvent]
  split_ifs
  · rfl
  · rfl

theorem Level.addText_nil (level : Level) : level.addText [] = level := rfl

/-- A text inside of an element is put in front as a whole. -/
theorem assemble?_textEvents (later : assemble? rest = some (level :: next :: outer))
    (text : Option String) :
    assemble? (textEvents text ++ rest) =
      some (level.addText (text.getD "").toList :: next :: outer) := by
  rw [textEvents]
  induction (text.getD "").toList with
  | nil =>
      rw [List.map_nil, List.nil_append, Level.addText_nil]
      exact later
  | cons c content ih =>
      rw [List.map_cons, List.cons_append, assemble?, ih]
      exact attach?_textEvent c

/-- The start of an element closes it over its content. -/
theorem assemble?_element {tag : String} {content : List Event} {children : List (Node String)}
    (later : assemble? content = some (⟨tag.toList, [], children⟩ :: level :: outer))
    (attributes : Attributes String) (text : Option String) :
    assemble? (.start tag.toList
        (attributes.map fun (name, value) => (name.toList, value.toList)) ::
          (textEvents text ++ content)) =
      some (⟨level.name, [],
        .element tag attributes (settle text) children (optionalText level.lead) ::
          level.nodes⟩ :: outer) := by
  rw [assemble?, assemble?_textEvents later text, Option.bind_some]
  have opened : (Level.addText (text.getD "").toList ⟨tag.toList, [], children⟩).name =
      tag.toList := rfl
  rw [Event.attach?, if_pos opened, Level.addElement, map_ofList_toList]
  simp [Level.addText, settle]

end

mutual

/-- The events of a tree put the tree in front of what follows it. -/
theorem assemble?_events (node : Node String) (named : ∀ inner ∈ node.preorder, inner.Named)
    {rest : List Event} {level next : Level} {outer : List Level}
    (later : assemble? rest = some (level :: next :: outer)) (clear : level.lead = []) :
    assemble? (node.events ++ rest) =
      some (⟨level.name, [], node.settled :: level.nodes⟩ :: next :: outer) := by
  match node, named with
  | .remark kind content tail, named =>
      rw [Node.preorder] at named
      exact absurd (named _ (List.mem_singleton_self _)) (Node.not_named_remark kind content tail)
  | .element tag attributes text children tail, named =>
      rw [Node.preorder] at named
      have inner := fun child member => named child (List.mem_cons_of_mem _ member)
      have finished : assemble? (.finish tag.toList :: (textEvents tail ++ rest)) =
          some (⟨tag.toList, [], []⟩ :: level.addText (tail.getD "").toList :: next :: outer) := by
        rw [assemble?, assemble?_textEvents later tail]
        rfl
      have filled := assemble?_eventsAll children inner finished rfl
      have closed := assemble?_element filled attributes text
      rw [Node.events, List.cons_append, List.append_assoc, List.append_assoc, List.cons_append,
        closed]
      simp [Node.settled, Node.mapText, settle, Level.addText, clear]

/-- The events of a list of trees put the trees in front of what follows them. -/
theorem assemble?_eventsAll (nodes : List (Node String))
    (named : ∀ inner ∈ Node.preorderAll nodes, inner.Named)
    {rest : List Event} {level next : Level} {outer : List Level}
    (later : assemble? rest = some (level :: next :: outer)) (clear : level.lead = []) :
    assemble? (Node.eventsAll nodes ++ rest) =
      some (⟨level.name, [], nodes.map Node.settled ++ level.nodes⟩ :: next :: outer) := by
  match nodes, named with
  | [], _ =>
      rw [Node.eventsAll, List.nil_append, later, List.map_nil, List.nil_append, ← clear]
  | node :: others, named =>
      rw [Node.preorderAll] at named
      have first := fun inner member => named inner (List.mem_append_left _ member)
      have following := fun inner member => named inner (List.mem_append_right _ member)
      have behind := assemble?_eventsAll others following later clear
      rw [Node.eventsAll, List.append_assoc, assemble?_events node first behind rfl]
      rfl

end

/-- A text that holds at most white space of markup. -/
def OnlySpace (text : Option String) : Prop :=
  ∀ c ∈ (text.getD "").toList, isSpace c = true

theorem onlySpace_none : OnlySpace none := by
  intro c member
  cases member

/-- White space beside the elements of a document is no part of it. -/
theorem assemble?_onlySpace {text : Option String} (spaces : OnlySpace text) :
    assemble? (textEvents text) = some [⟨[], [], []⟩] := by
  rw [OnlySpace] at spaces
  rw [textEvents]
  generalize (text.getD "").toList = content at spaces ⊢
  induction content with
  | nil => rfl
  | cons c rest ih =>
      rw [List.forall_mem_cons] at spaces
      have unescaped : textEvent c = .character c := by
        rw [textEvent, if_neg]
        rintro (rfl | rfl | rfl)
        · cases spaces.1
        · cases spaces.1
        · cases spaces.1
      rw [List.map_cons, assemble?, ih spaces.2, unescaped]
      exact if_pos spaces.1

/-- The events of a tree are those of a document with the tree as its root, if only
white space follows the tree. -/
theorem root?_events {root : Node String} (named : ∀ inner ∈ root.preorder, inner.Named)
    (spaces : OnlySpace root.tail) : root? root.events = some (root.settled.withTail none) := by
  match root, named, spaces with
  | .remark kind content tail, named, _ =>
      rw [Node.preorder] at named
      exact absurd (named _ (List.mem_singleton_self _)) (Node.not_named_remark kind content tail)
  | .element tag attributes text children tail, named, spaces =>
      rw [Node.preorder] at named
      have inner := fun child member => named child (List.mem_cons_of_mem _ member)
      have finished : assemble? (.finish tag.toList :: textEvents tail) =
          some [⟨tag.toList, [], []⟩, ⟨[], [], []⟩] := by
        rw [assemble?, show assemble? (textEvents tail) = _ from assemble?_onlySpace spaces]
        rfl
      have filled := assemble?_eventsAll children inner finished rfl
      rw [root?, Node.events, assemble?_element filled attributes text]
      simp [Node.settled, Node.mapText, Node.withTail, optionalText]

end VectorScene.Markup
