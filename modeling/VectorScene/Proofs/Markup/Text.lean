import VectorScene.Markup.Layout
import VectorScene.Markup.Name
import VectorScene.Markup.Namespace

/-!
# Texts of trees

The texts and tails of a tree can be changed without any effect on its elements.
Stripping and resolving names keep the change, and laying out a tree is one such
change.
-/

namespace VectorScene.Markup.Node

variable {α : Type} {change other : Option String → Option String}

mutual

/-- A tree whose texts and tails are changed. -/
def mapText (change : Option String → Option String) : Node α → Node α
  | .element tag attributes text children tail =>
      .element tag attributes (change text) (mapTextAll change children) (change tail)
  | .remark kind content tail => .remark kind content (change tail)

/-- A list of trees whose texts and tails are changed. -/
def mapTextAll (change : Option String → Option String) : List (Node α) → List (Node α)
  | [] => []
  | node :: rest => mapText change node :: mapTextAll change rest

end

/-- A tree without its texts and tails. -/
def bare (node : Node α) : Node α :=
  node.mapText fun _ => none

/-- A list of trees without their texts and tails. -/
def bareAll (nodes : List (Node α)) : List (Node α) :=
  mapTextAll (fun _ => none) nodes

@[simp] theorem mapTextAll_eq_map (nodes : List (Node α)) :
    mapTextAll change nodes = nodes.map (mapText change) := by
  induction nodes with
  | nil => rfl
  | cons node rest ih => rw [mapTextAll, ih, List.map_cons]

@[simp] theorem tag?_mapText (node : Node α) : (node.mapText change).tag? = node.tag? := by
  cases node <;> rfl

@[simp] theorem attributes_mapText (node : Node α) :
    (node.mapText change).attributes = node.attributes := by
  cases node <;> rfl

@[simp] theorem get?_mapText (node : Node α) (name : String) :
    (node.mapText change).get? name = node.get? name := by
  rw [get?, get?, attributes_mapText]

mutual

theorem mapText_mapText (node : Node α) :
    (node.mapText other).mapText change = node.mapText (change ∘ other) := by
  match node with
  | .element tag attributes text children tail =>
      rw [mapText, mapText, mapText, mapTextAll_mapTextAll children]
      rfl
  | .remark kind content tail => rfl

theorem mapTextAll_mapTextAll (nodes : List (Node α)) :
    mapTextAll change (mapTextAll other nodes) = mapTextAll (change ∘ other) nodes := by
  match nodes with
  | [] => rfl
  | node :: rest =>
      rw [mapTextAll, mapTextAll, mapTextAll, mapText_mapText node, mapTextAll_mapTextAll rest]

end

/-- Changing texts first does not matter to a tree without texts. -/
@[simp] theorem bare_mapText (node : Node α) : (node.mapText change).bare = node.bare :=
  mapText_mapText node

mutual

/-- The nodes of a tree with changed texts are its nodes with changed texts. -/
theorem preorder_mapText (node : Node α) :
    (node.mapText change).preorder = node.preorder.map (mapText change) := by
  match node with
  | .element tag attributes text children tail =>
      rw [mapText, preorder, preorder, preorderAll_mapText children, List.map_cons, mapText]
  | .remark kind content tail => rfl

theorem preorderAll_mapText (nodes : List (Node α)) :
    preorderAll (mapTextAll change nodes) = (preorderAll nodes).map (mapText change) := by
  match nodes with
  | [] => rfl
  | node :: rest =>
      rw [mapTextAll, preorderAll, preorderAll, preorder_mapText node, preorderAll_mapText rest,
        List.map_append]

end

/-- Trees that are equal but for their texts have the same elements. -/
theorem exists_mem_preorder {first second : Node α} (same : first.bare = second.bare)
    {inner : Node α} (member : inner ∈ first.preorder) :
    ∃ other ∈ second.preorder,
      other.tag? = inner.tag? ∧ other.attributes = inner.attributes := by
  have bared : inner.bare ∈ second.bare.preorder := by
    rw [← same, bare, preorder_mapText]
    exact List.mem_map_of_mem member
  rw [bare, preorder_mapText, List.mem_map] at bared
  obtain ⟨other, inside, equal⟩ := bared
  refine ⟨other, inside, ?_, ?_⟩
  · exact (tag?_mapText other).symm.trans ((congrArg tag? equal).trans (tag?_mapText inner))
  · exact (attributes_mapText other).symm.trans
      ((congrArg attributes equal).trans (attributes_mapText inner))

mutual

theorem strip_mapText (node : Node α) : (node.mapText change).strip = node.strip.mapText change := by
  match node with
  | .element tag attributes text children tail =>
      rw [mapText, strip, strip, mapText, stripAll_mapText children]
  | .remark kind content tail => rfl

theorem stripAll_mapText (nodes : List (Node α)) :
    stripAll (mapTextAll change nodes) = mapTextAll change (stripAll nodes) := by
  match nodes with
  | [] => rfl
  | node :: rest =>
      rw [mapTextAll, stripAll, stripAll, mapTextAll, strip_mapText node, stripAll_mapText rest]

end

mutual

/-- Names are resolved in the same way whatever the texts are. -/
theorem resolve?_mapText (scope : Scope) (node : Node String) :
    resolve? scope (node.mapText change) = (resolve? scope node).map (mapText change) := by
  match node with
  | .element tag attributes text children tail =>
      rw [mapText, resolve?, resolve?]
      cases scope.enter attributes with
      | none => rfl
      | some inner =>
          simp only [Option.bind_some, resolveAll?_mapText inner children]
          cases inner.tag? tag with
          | none => rfl
          | some name =>
              cases inner.attributes? attributes with
              | none => rfl
              | some resolved =>
                  simp only [Option.bind_some, Option.map_map]
                  rfl
  | .remark kind content tail => rfl

theorem resolveAll?_mapText (scope : Scope) (nodes : List (Node String)) :
    resolveAll? scope (mapTextAll change nodes) =
      (resolveAll? scope nodes).map (mapTextAll change) := by
  match nodes with
  | [] => rfl
  | node :: rest =>
      rw [mapTextAll, resolveAll?, resolveAll?, resolve?_mapText scope node]
      cases resolve? scope node with
      | none => rfl
      | some first =>
          simp only [Option.map_some, Option.bind_some, resolveAll?_mapText scope rest,
            Option.map_map]
          rfl

end

/-! ## Layout -/

@[simp] theorem bare_withTail (node : Node α) (tail : Option String) :
    (node.withTail tail).bare = node.bare := by
  cases node <;> rfl

theorem bareAll_closeLast (tail : String) (nodes : List (Node α)) :
    bareAll (closeLast tail nodes) = bareAll nodes := by
  induction nodes using closeLast.induct with
  | case1 => rfl
  | case2 last =>
      rw [closeLast, bareAll, bareAll, mapTextAll, mapTextAll]
      exact congrArg (· :: []) (bare_withTail last _)
  | case3 node next rest ih =>
      rw [closeLast, bareAll, bareAll, mapTextAll, mapTextAll]
      exact congrArg _ ih

mutual

/-- Laying out a tree changes texts and tails only. -/
theorem bare_layout (tab : List Char) (level : Nat) (node : Node α) :
    (layout tab level node).bare = node.bare := by
  match node with
  | .element tag attributes text children tail =>
      have inner : mapTextAll (fun _ => none)
          (closeLast (lineBreak tab level) (layoutAll tab (level + 1) children)) =
            mapTextAll (fun _ => none) children :=
        (bareAll_closeLast _ _).trans (bareAll_layoutAll tab (level + 1) children)
      rw [layout, bare, bare, mapText, mapText, inner]
  | .remark kind content tail => rfl

theorem bareAll_layoutAll (tab : List Char) (level : Nat) (nodes : List (Node α)) :
    bareAll (layoutAll tab level nodes) = bareAll nodes := by
  match nodes with
  | [] => rfl
  | node :: rest =>
      have first : mapText (fun _ => none) (layout tab level node) =
          mapText (fun _ => none) node := bare_layout tab level node
      have later : mapTextAll (fun _ => none) (layoutAll tab level rest) =
          mapTextAll (fun _ => none) rest := bareAll_layoutAll tab level rest
      rw [layoutAll, bareAll, bareAll, mapTextAll, mapTextAll, first, later]

end

/-- An indented tree has the elements of the tree. -/
theorem bare_indented (indent : Option Indent) (root : Node α) :
    (root.indented indent).bare = root.bare := by
  cases indent with
  | none => rfl
  | some indent => exact bare_layout indent.tab 0 root

end VectorScene.Markup.Node
