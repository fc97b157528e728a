import VectorScene.Proofs.Markup.Strip
import VectorScene.Proofs.Reading.Element
import VectorScene.Proofs.Reading.Outcome

/-!
# Readings of a group

A reading of a group is a reading of the first element that is the group, as if that
element were the whole document.  What it gives is part of what the document gives, in
the same order.
-/

namespace VectorScene

namespace Markup.Node

variable {α : Type}

mutual

/-- The nodes of an inner node are some of the nodes around it, in the same order. -/
theorem preorder_sublist {outer inner : Node α} (member : inner ∈ outer.preorder) :
    inner.preorder.Sublist outer.preorder := by
  match outer with
  | .element tag attributes text children tail =>
      rw [preorder] at member
      rcases List.mem_cons.1 member with rfl | inside
      · rfl
      · exact (preorderAll_sublist inside).cons _
  | .remark kind content tail =>
      rw [preorder] at member
      rw [List.mem_singleton.1 member]

theorem preorderAll_sublist {nodes : List (Node α)} {inner : Node α}
    (member : inner ∈ preorderAll nodes) : inner.preorder.Sublist (preorderAll nodes) := by
  match nodes with
  | [] => cases member
  | node :: rest =>
      rw [preorderAll] at member ⊢
      rcases List.mem_append.1 member with inside | later
      · exact (preorder_sublist inside).trans (List.sublist_append_left _ _)
      · exact (preorderAll_sublist later).trans (List.sublist_append_right _ _)

end

end Markup.Node

namespace Reading

open VectorScene.Markup

/-! ## The first group -/

/-- An element that is a group with an identifier when its names are stripped. -/
def IsGroup (id : String) (node : Node String) : Prop :=
  node.strip.tag? = some "g" ∧ node.strip.get? "id" = some id

instance (id : String) : DecidablePred (IsGroup id) :=
  fun _ => inferInstanceAs (Decidable (_ ∧ _))

/-- The first element in document order that is a group with an identifier. -/
def FirstGroup (id : String) (tree group : Node String) : Prop :=
  IsGroup id group ∧
    ∃ before after, tree.preorder = before ++ group :: after ∧ ∀ node ∈ before, ¬IsGroup id node

theorem group?_strip (id : String) (tree : Node String) :
    group? id tree.strip = (tree.preorder.find? fun node => IsGroup id node).map Node.strip := by
  rw [group?, Node.preorder_strip, List.find?_map]
  congr 2
  funext node
  simp [IsGroup]

theorem group?_eq_none {id : String} {tree : Node String}
    (missing : ∀ node ∈ tree.preorder, ¬IsGroup id node) : group? id tree.strip = none := by
  rw [group?_strip, Option.map_eq_none_iff, List.find?_eq_none]
  intro node member
  simpa using missing node member

theorem group?_of_first {id : String} {tree group : Node String}
    (first : FirstGroup id tree group) : group? id tree.strip = some group.strip := by
  obtain ⟨isGroup, before, after, split, none⟩ := first
  have found : tree.preorder.find? (fun node => IsGroup id node) = some group := by
    rw [List.find?_eq_some_iff_append]
    refine ⟨decide_eq_true isGroup, before, after, split, ?_⟩
    intro node member
    simpa using none node member
  rw [group?_strip, found, Option.map_some]

/-- If there is such a group, there is a first one. -/
theorem exists_first {id : String} {tree : Node String}
    (present : ∃ node ∈ tree.preorder, IsGroup id node) : ∃ group, FirstGroup id tree group := by
  cases found : tree.preorder.find? fun node => IsGroup id node with
  | none =>
      obtain ⟨node, member, isGroup⟩ := present
      rw [List.find?_eq_none] at found
      exact absurd (decide_eq_true isGroup) (found node member)
  | some group =>
      rw [List.find?_eq_some_iff_append] at found
      obtain ⟨isGroup, before, after, split, none⟩ := found
      refine ⟨group, of_decide_eq_true isGroup, before, after, split, ?_⟩
      intro node member
      simpa using none node member

/-! ## Parts of a document -/

/-- What is read of an inner element is read of the document, in the same order. -/
theorem candidates_sublist {outer inner : Node String} (member : inner ∈ outer.preorder) :
    (candidates inner.strip).Sublist (candidates outer.strip) := by
  have nodes : inner.strip.preorder.Sublist outer.strip.preorder := by
    rw [Node.preorder_strip, Node.preorder_strip]
    exact (Node.preorder_sublist member).map _
  have passes (kinds : List Kind) :
      (kinds.flatMap fun kind =>
        (inner.strip.preorder.filter fun node => node.tag? = some kind.tag).map (kind, ·)).Sublist
      (kinds.flatMap fun kind =>
        (outer.strip.preorder.filter fun node => node.tag? = some kind.tag).map (kind, ·)) := by
    induction kinds with
    | nil => rfl
    | cons kind rest ih => exact ((nodes.filter _).map _).append ih
  exact passes Kind.all

/-- A reading that succeeds gives the shapes of all elements that are read. -/
theorem eq_filterMap_of_shapes {settings : Settings} {elements : List (Kind × Node String)}
    {results : List ReadShape} (ended : (shapes settings elements).outcome = .ok results) :
    results = elements.filterMap (finished? settings) := by
  cases strict : settings.strict.isOn with
  | false =>
      rcases shapes_ends_lenient strict elements with ⟨-, failed⟩ | ⟨-, same⟩
      · rw [failed] at ended
        cases ended
      · rw [same] at ended
        exact (Except.ok.inj ended).symm
  | true =>
      rcases shapes_ends_strict strict elements with ⟨-, same⟩ | ⟨_, _, -, same⟩ | ⟨-, same⟩
      · rw [same] at ended
        cases ended
      · rw [same] at ended
        cases ended
      · rw [same] at ended
        exact (Except.ok.inj ended).symm

theorem shapes_sublist {settings : Settings} {part whole : List (Kind × Node String)}
    (sublist : part.Sublist whole) {inner outer : List ReadShape}
    (endedPart : (shapes settings part).outcome = .ok inner)
    (ended : (shapes settings whole).outcome = .ok outer) : inner.Sublist outer := by
  rw [eq_filterMap_of_shapes endedPart, eq_filterMap_of_shapes ended]
  exact sublist.filterMap _

/-! ## Documents -/

/-- A group is read as a document of its own. -/
theorem ofTree_of_first (settings : Settings) {id : String} {tree group : Node String}
    (first : FirstGroup id tree group) :
    ofTree settings (some id) tree = ofTree settings none group := by
  have found : elements? (some id) tree = some (candidates group.strip) := by
    rw [elements?, group?_of_first first, Option.map_some]
  rw [ofTree_eq_shapes found]
  rfl

/-- Where there is no such group, nothing is read. -/
theorem ofTree_of_missing (settings : Settings) {id : String} {tree : Node String}
    (missing : ∀ node ∈ tree.preorder, ¬IsGroup id node) :
    ofTree settings (some id) tree =
      if settings.strict.isOn then ⟨[], .error (.defect (.missingGroup id))⟩
      else ⟨[.missingGroup id], .ok []⟩ := by
  have none : elements? (some id) tree = none := by
    rw [elements?, group?_eq_none missing, Option.map_none]
  cases strict : settings.strict.isOn with
  | true => exact ofTree_missing_strict none strict
  | false => exact ofTree_missing_lenient none strict

/-- The text after an element does not matter to what is read from it. -/
theorem ofTree_withTail (settings : Settings) (groupId : Option String) (tree : Node String)
    (tail : Option String) :
    ofTree settings groupId (tree.withTail tail) = ofTree settings groupId tree := by
  rw [← ofTree_bare, Node.bare_withTail, ofTree_bare]

/-- A reading of a group finds no shapes if no element is that group, and warns of it or
fails.  Otherwise it is the reading of the first such element as a document.  Nothing
outside that element matters, and the shapes are a part, in order, of those that a reading
of the whole document gives. -/
theorem ofTree_group (settings : Settings) (id : String) (tree : Node String) :
    ((∀ node ∈ tree.preorder, ¬IsGroup id node) →
      ofTree settings (some id) tree =
        if settings.strict.isOn then ⟨[], .error (.defect (.missingGroup id))⟩
        else ⟨[.missingGroup id], .ok []⟩) ∧
    ((∃ node ∈ tree.preorder, IsGroup id node) → ∃ group, FirstGroup id tree group) ∧
    ∀ group, FirstGroup id tree group →
      ofTree settings (some id) tree = ofTree settings none group ∧
      (∀ other tail, FirstGroup id other (group.withTail tail) →
        ofTree settings (some id) other = ofTree settings (some id) tree) ∧
      ∀ inner outer, (ofTree settings (some id) tree).outcome = .ok inner →
        (ofTree settings none tree).outcome = .ok outer → inner.Sublist outer := by
  refine ⟨ofTree_of_missing settings, exists_first, ?_⟩
  · intro group first
    have alone := ofTree_of_first settings first
    refine ⟨alone, ?_, ?_⟩
    · intro other tail firstOther
      rw [ofTree_of_first settings firstOther, alone, ofTree_withTail]
    · intro inner outer endedPart ended
      obtain ⟨-, before, after, split, -⟩ := first
      have member : group ∈ tree.preorder := by
        rw [split]
        exact List.mem_append_right before List.mem_cons_self
      rw [alone] at endedPart
      exact shapes_sublist (candidates_sublist member) endedPart ended

/-- A circle around the origin. -/
def circleNode (radius : String) : Node String :=
  .element "circle" [("cx", "0"), ("cy", "0"), ("r", radius), ("style", "stroke:#993399")] none []
    none

/-- A group whose names have a namespace, around a circle and a group of the same name. -/
def outerGroup : Node String :=
  .element "{urn:svg}g" [("{urn:svg}id", "a")] none
    [.element "g" [("id", "a")] none [circleNode "2"] none, circleNode "3"] none

/-- A document with circles before, in and after the group, and a second such group. -/
def nestedGroups : Node String :=
  .element "svg" [] none
    [circleNode "1", outerGroup, circleNode "4",
     .element "g" [("id", "a")] none [circleNode "5"] none]
    none

theorem ofTree_group_nested :
    let settings : Settings := ⟨⟨400, 300, by decide, by decide⟩, .flag false, .absent, .absent⟩
    let circle (radius : Int) : ReadShape :=
      .circle (.integer 0) (.integer 0) (.integer radius) 0x993399FF
    FirstGroup "a" nestedGroups outerGroup ∧
      ofTree settings (some "a") nestedGroups = ⟨[], .ok [circle 2, circle 3]⟩ ∧
      ofTree settings (some "b") nestedGroups = ⟨[.missingGroup "b"], .ok []⟩ ∧
      [circle 2, circle 3].Sublist [circle 1, circle 2, circle 3, circle 4, circle 5] := by
  intro settings circle
  have first : FirstGroup "a" nestedGroups outerGroup := by
    refine ⟨by decide +kernel, [nestedGroups, circleNode "1"], _, rfl, ?_⟩
    decide +kernel
  obtain ⟨missing, -, -⟩ := ofTree_group settings "b" nestedGroups
  obtain ⟨-, -, scoping⟩ := ofTree_group settings "a" nestedGroups
  obtain ⟨alone, -, sublist⟩ := scoping outerGroup first
  have read : ofTree settings none outerGroup = ⟨[], .ok [circle 2, circle 3]⟩ := by
    decide +kernel
  have whole : (ofTree settings none nestedGroups).outcome =
      .ok [circle 1, circle 2, circle 3, circle 4, circle 5] := by
    decide +kernel
  rw [read] at alone
  refine ⟨first, alone, ?_, ?_⟩
  · exact missing (by decide +kernel)
  · exact sublist _ _ (congrArg Run.outcome alone) whole

end Reading

end VectorScene
