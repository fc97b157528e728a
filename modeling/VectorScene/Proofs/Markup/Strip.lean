import Mathlib.Data.List.Nodup
import VectorScene.Markup.Name

/-!
# Stripped trees

Stripping a tree strips its nodes one by one.  Attributes whose stripped names are
equal become one, so that no name occurs twice.
-/

namespace VectorScene.Markup

namespace Attributes

variable {α : Type} {attributes pairs : Attributes α} {name : String} {value : α}

theorem mem_set {pair : String × α} (member : pair ∈ attributes.set name value) :
    pair ∈ attributes ∨ pair = (name, value) := by
  induction attributes with
  | nil => exact .inr (List.mem_singleton.1 member)
  | cons first rest ih =>
      rw [set] at member
      split at member
      · rcases List.mem_cons.1 member with new | old
        · exact .inr new
        · exact .inl (List.mem_cons_of_mem _ old)
      · rcases List.mem_cons.1 member with rfl | later
        · exact .inl List.mem_cons_self
        · exact (ih later).imp_left (List.mem_cons_of_mem _)

/-- Giving an attribute a value makes no name occur twice. -/
theorem nodup_set (nodup : attributes.names.Nodup) : (attributes.set name value).names.Nodup := by
  induction attributes with
  | nil => exact List.nodup_singleton name
  | cons first rest ih =>
      obtain ⟨unused, others⟩ := List.nodup_cons.1 nodup
      rw [set]
      split
      next same =>
        subst same
        exact List.nodup_cons.2 ⟨unused, others⟩
      next other =>
        refine List.nodup_cons.2 ⟨?_, ih others⟩
        intro again
        obtain ⟨pair, member, same⟩ := List.mem_map.1 again
        rcases mem_set member with old | new
        · exact unused (List.mem_map.2 ⟨pair, old, same⟩)
        · rw [new] at same
          exact other same.symm

theorem mem_ofList {pair : String × α} (member : pair ∈ ofList pairs) : pair ∈ pairs := by
  suffices known : ofList pairs ⊆ pairs from known member
  refine List.foldlRecOn (motive := (· ⊆ pairs)) pairs _ (List.nil_subset _) ?_
  intro attributes inside new present pair member
  rcases mem_set member with old | rfl
  · exact inside old
  · exact present

theorem nodup_ofList : (ofList pairs).names.Nodup :=
  List.foldlRecOn (motive := fun attributes => (names attributes).Nodup) pairs _ List.nodup_nil
    fun _ nodup _ _ => nodup_set nodup

end Attributes

namespace Node

variable {α : Type}

@[simp] theorem tag?_strip (node : Node α) : node.strip.tag? = node.tag?.map stripName := by
  cases node <;> rfl

mutual

/-- The nodes of a stripped tree are its nodes, stripped. -/
theorem preorder_strip (node : Node α) : node.strip.preorder = node.preorder.map strip := by
  match node with
  | .element tag attributes text children tail =>
      rw [strip, preorder, preorder, preorderAll_strip children, List.map_cons, strip]
  | .remark kind content tail => rfl

theorem preorderAll_strip (nodes : List (Node α)) :
    preorderAll (stripAll nodes) = (preorderAll nodes).map strip := by
  match nodes with
  | [] => rfl
  | node :: rest =>
      rw [stripAll, preorderAll, preorderAll, preorder_strip node, preorderAll_strip rest,
        List.map_append]

end

/-- Each attribute of a stripped node is a stripped attribute of the node. -/
theorem exists_of_mem_attributes_strip {node : Node α} {pair : String × α}
    (member : pair ∈ node.strip.attributes) :
    ∃ name, (name, pair.2) ∈ node.attributes ∧ stripName name = pair.1 := by
  cases node with
  | element tag attributes text children tail =>
      obtain ⟨⟨name, value⟩, inside, rfl⟩ := List.mem_map.1 (Attributes.mem_ofList member)
      exact ⟨name, inside, rfl⟩
  | remark kind content tail => cases member

theorem nodup_attributes_strip (node : Node α) : node.strip.attributes.names.Nodup := by
  cases node with
  | element tag attributes text children tail => exact Attributes.nodup_ofList
  | remark kind content tail => exact List.nodup_nil

end Node

end VectorScene.Markup
