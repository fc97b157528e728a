import VectorScene.Proofs.Markup.Rename
import VectorScene.Proofs.Reading.Group
import VectorScene.Proofs.Reading.Passes

/-!
# What a reading looks at

A reading looks at the tags of elements, at the geometry and the style of shapes and at the
identifiers of groups.  A change that keeps these, once names are stripped, has no effect.  The
namespace of the tags has none as long as it is stripped.
-/

namespace VectorScene.Reading

open VectorScene.Markup

/-- The attributes of an element that a reading looks at, once names are stripped. -/
inductive Inspects (node : Node String) : String → Prop where
  | geometry {kind : Kind} {name : String} :
      node.strip.tag? = some kind.tag → name ∈ kind.geometry → Inspects node name
  | style {kind : Kind} : node.strip.tag? = some kind.tag → Inspects node "style"
  | id : node.strip.tag? = some "g" → Inspects node "id"

/-- A change, node by node, that keeps what a reading of a tree looks at. -/
structure Unseen (change : Node String → Node String) (tree : Node String) : Prop where
  preorder (node : Node String) : (change node).preorder = node.preorder.map change
  tag : ∀ node ∈ tree.preorder, (change node).strip.tag? = node.strip.tag?
  value : ∀ node ∈ tree.preorder, ∀ name, Inspects node name →
    (change node).strip.get? name = node.strip.get? name

namespace Unseen

variable {change : Node String → Node String} {tree : Node String}

theorem inner (unseen : Unseen change tree) {part : Node String} (member : part ∈ tree.preorder) :
    Unseen change part := by
  have inside : part.preorder ⊆ tree.preorder := (Node.preorder_sublist member).subset
  exact ⟨unseen.preorder, fun node among => unseen.tag node (inside among),
    fun node among => unseen.value node (inside among)⟩

theorem isGroup_iff (unseen : Unseen change tree) {id : String} {node : Node String}
    (member : node ∈ tree.preorder) : IsGroup id (change node) ↔ IsGroup id node := by
  rw [IsGroup, IsGroup, unseen.tag node member]
  refine and_congr_right fun tagged => ?_
  rw [unseen.value node member "id" (.id tagged)]

/-- The changed tree has the same shape elements. -/
theorem map_inspected (unseen : Unseen change tree) :
    (shapeElements (change tree)).map inspected = (shapeElements tree).map inspected := by
  rw [shapeElements, shapeElements, unseen.preorder, List.filterMap_map, List.map_filterMap,
    List.map_filterMap]
  refine List.filterMap_congr fun node member => ?_
  have tags := unseen.tag node member
  rw [Node.tag?_strip, Node.tag?_strip] at tags
  rw [Function.comp_apply, tags, Option.map_map, Option.map_map]
  refine Option.map_congr fun kind found => ?_
  obtain ⟨tag, tagged, named⟩ := Option.bind_eq_some_iff.1 found
  have known : node.strip.tag? = some kind.tag := by
    rw [Node.tag?_strip, tagged, Kind.ofTag?_eq_some.1 named]
  have geometry : kind.geometry.map (change node).strip.get? = kind.geometry.map node.strip.get? :=
    List.map_congr_left fun name among =>
      unseen.value node member name (.geometry known among)
  have style := unseen.value node member "style" (.style known)
  rw [Function.comp_apply, Function.comp_apply, inspected, inspected, geometry, style]

/-- A change that a reading does not see has no effect on it. -/
theorem ofTree_eq (unseen : Unseen change tree) (settings : Settings) (groupId : Option String) :
    ofTree settings groupId (change tree) = ofTree settings groupId tree := by
  cases groupId with
  | none => exact ofTree_of_inspected settings unseen.map_inspected
  | some id =>
      by_cases present : ∃ node ∈ tree.preorder, IsGroup id node
      · obtain ⟨group, isGroup, before, after, split, others⟩ := exists_first present
        have among : ∀ node ∈ before ++ group :: after, node ∈ tree.preorder := by
          rw [split]
          exact fun _ member => member
        have member : group ∈ tree.preorder :=
          among group (List.mem_append_right before List.mem_cons_self)
        -- No earlier element becomes the group, so the first group is the same element, changed.
        have first : FirstGroup id (change tree) (change group) := by
          refine ⟨(unseen.isGroup_iff member).2 isGroup, before.map change, after.map change, ?_, ?_⟩
          · rw [unseen.preorder, split, List.map_append, List.map_cons]
          · intro node inside
            obtain ⟨old, early, rfl⟩ := List.mem_map.1 inside
            rw [unseen.isGroup_iff (among old (List.mem_append_left _ early))]
            exact others old early
        rw [ofTree_of_first settings first,
          ofTree_of_first settings ⟨isGroup, before, after, split, others⟩]
        exact ofTree_of_inspected settings (unseen.inner member).map_inspected
      · have missing : ∀ node ∈ tree.preorder, ¬IsGroup id node :=
          fun node member isGroup => present ⟨node, member, isGroup⟩
        have missingChanged : ∀ node ∈ (change tree).preorder, ¬IsGroup id node := by
          rw [unseen.preorder]
          intro node inside
          obtain ⟨old, member, rfl⟩ := List.mem_map.1 inside
          rw [unseen.isGroup_iff member]
          exact missing old member
        rw [ofTree_of_missing settings missingChanged, ofTree_of_missing settings missing]

end Unseen

end VectorScene.Reading
