import VectorScene.Proofs.Markup.Text
import VectorScene.Proofs.Scene.Shape
import VectorScene.Reading

/-!
# What is read of an element

A shape is read from the attributes of an element alone.  Texts have no part in
what is read from a document.
-/

namespace VectorScene.Reading

open VectorScene.Markup

/-- Elements with the same attributes are read alike. -/
theorem shape_congr {first second : Node String} (same : first.attributes = second.attributes)
    (kind : Kind) : shape kind first = shape kind second := by
  have looked : first.get? = second.get? := by
    funext name
    rw [Node.get?, Node.get?, same]
  have numbers : number first = number second := by
    funext name
    rw [number, number, looked]
  have lists : points first = points second := by
    funext name
    rw [points, points, looked]
  rw [shape, shape, numbers, lists, looked]

theorem shapes_map_bare (settings : Settings) (elements : List (Kind × Node String)) :
    shapes settings (elements.map fun (kind, node) => (kind, node.bare)) =
      shapes settings elements := by
  induction elements with
  | nil => rfl
  | cons element rest ih =>
      obtain ⟨kind, node⟩ := element
      have same : node.bare.attributes = node.attributes := Node.attributes_mapText node
      rw [List.map_cons, shapes, shapes, ih, shape_congr same kind]

theorem candidates_bare (root : Node String) :
    candidates root.bare = (candidates root).map fun (kind, node) => (kind, node.bare) := by
  rw [candidates, candidates, List.map_flatMap, Node.bare, Node.preorder_mapText]
  congr 1
  funext kind
  rw [List.filter_map, List.map_map, List.map_map]
  congr 1
  refine List.filter_congr fun node _ => ?_
  rw [Function.comp_apply, Node.tag?_mapText]

theorem group?_bare (id : String) (root : Node String) :
    group? id root.bare = (group? id root).map Node.bare := by
  rw [group?, group?, Node.bare, Node.preorder_mapText, List.find?_map]
  congr 2
  funext node
  rw [Function.comp_apply, Node.tag?_mapText, Node.get?_mapText]

/-- The texts of a tree do not matter to what is read from it. -/
theorem ofTree_bare (settings : Settings) (groupId : Option String) (tree : Node String) :
    ofTree settings groupId tree.bare = ofTree settings groupId tree := by
  have stripped : tree.bare.strip = tree.strip.bare := Node.strip_mapText tree
  cases groupId with
  | none => simp only [ofTree, stripped, candidates_bare, shapes_map_bare]
  | some id =>
      simp only [ofTree, stripped, group?_bare]
      cases group? id tree.strip with
      | none => rfl
      | some group => simp only [Option.map_some, candidates_bare, shapes_map_bare]

end VectorScene.Reading
