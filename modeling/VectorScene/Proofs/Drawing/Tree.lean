import VectorScene.Proofs.Drawing.Element
import VectorScene.Proofs.Drawing.Leaf
import VectorScene.Proofs.Markup.Document
import VectorScene.Proofs.Reading.Element

/-!
# Trees of drawings read back

The tree of a drawing holds one group of shape elements.  What is read from the
text of a drawing is read from that group, whether or not the group is asked for.
-/

namespace VectorScene.Drawing

open VectorScene.Markup VectorScene.Reading

/-! ## Shapes in a drawing -/

/-- A node that shows an image: a legal element of its kind, which is read as the
image if all its scalars are small enough, and is refused otherwise. -/
structure Shows (node : Node String) (shown : PixelImage) : Prop where
  element : node = .element shown.kind.tag node.attributes none [] none
  plain : PlainAttributes node.attributes
  legal : ∀ pair ∈ node.attributes, LegalText pair.2.toList
  reads : (∀ position ∈ shown.scalars, |position| < 2 ^ 1024 - 2 ^ 970) →
    Reading.shape shown.kind node = .ok (asRead shown)
  refuses : (∃ position ∈ shown.scalars, 2 ^ 1024 - 2 ^ 970 ≤ |position|) →
    ∃ name text, Reading.shape shown.kind node = .error (.invalidAttribute name text) ∧
      ∃ position ∈ shown.scalars, 2 ^ 1024 - 2 ^ 970 ≤ |position| ∧
        (Number.integer position).written = .ok text

/-- The element that is drawn for a shape shows the image of the shape. -/
theorem exists_shows {canvas : Canvas} {scene : SceneShape} {node : Node String}
    (drawn : shapeNode canvas scene = .ok node) :
    ∃ shown, image canvas scene = .ok shown ∧ Shows node shown := by
  obtain ⟨pixels, mapped, textual⟩ := exceptBind_eq_ok.1 drawn
  obtain ⟨texts, written, rfl⟩ := map_eq_ok.1 textual
  obtain ⟨shown, imaged, related⟩ := exists_image mapped
  have sameKind : texts.kind = shown.kind :=
    (Shape.mapM_eq_ok.1 written).kind_eq.symm.trans related.kind_eq
  refine ⟨shown, imaged, ?_⟩
  rw [shape_eq]
  constructor
  · rw [sameKind]
    rfl
  · exact plainAttributes texts
  · exact legalText_elementAttributes mapped written
  · intro small
    rw [← sameKind]
    exact shape_of_written written related small rfl
  · intro large
    rw [← sameKind]
    exact shape_of_written_large written related large rfl

theorem Shows.tag? {node : Node String} {shown : PixelImage} (shows : Shows node shown) :
    node.tag? = some shown.kind.tag := by
  rw [shows.element]
  rfl

/-- The nodes of a drawing show the images of the shapes of its scene in order. -/
theorem exists_images {Thing : Type} [Shown Thing] {canvas : Canvas}
    {leaves : List (Leaf Thing)} {nodes : List (Node String)}
    (drawn : (leafNodes canvas leaves).outcome = .ok nodes) :
    ∃ images, (drawnShapes leaves).mapM (image canvas) = .ok images ∧
      List.Forall₂ Shows nodes images := by
  have draws := (draws_of_leafNodes drawn).nodes
  generalize drawnShapes leaves = scenes at draws
  clear drawn
  induction draws with
  | nil => exact ⟨[], rfl, .nil⟩
  | cons head _ ih =>
      obtain ⟨shown, imaged, shows⟩ := exists_shows head
      obtain ⟨images, imagedLater, showsLater⟩ := ih
      refine ⟨shown :: images, ?_, .cons shows showsLater⟩
      rw [mapM_eq_ok] at imagedLater ⊢
      exact .cons imaged imagedLater

/-! ## The tree of a drawing -/

section

variable {nodes : List (Node String)} {images : List PixelImage}

theorem Shows.preorder {node : Node String} {shown : PixelImage} (shows : Shows node shown) :
    node.preorder = [node] := by
  rw [shows.element]
  rfl

theorem preorderAll_of_shows (shows : List.Forall₂ Shows nodes images) :
    Node.preorderAll nodes = nodes := by
  induction shows with
  | nil => rfl
  | cons head _ ih =>
      rw [Node.preorderAll, head.preorder, ih]
      rfl

theorem Shows.plainNode {node : Node String} {shown : PixelImage} (shows : Shows node shown) :
    node.Plain := by
  constructor
  · exact ⟨shown.kind.tag, shows.tag?, isPlainName_tag shown.kind⟩
  · exact shows.plain

theorem textsAll_of_shows (shows : List.Forall₂ Shows nodes images) : Node.textsAll nodes = [] := by
  induction shows with
  | nil => rfl
  | cons head _ ih =>
      rw [Node.textsAll, head.element, ih]
      rfl

theorem bareAll_of_shows (shows : List.Forall₂ Shows nodes images) :
    Node.mapTextAll (fun _ => none) nodes = nodes := by
  induction shows with
  | nil => rfl
  | cons head _ ih =>
      rw [Node.mapTextAll, ih, head.element]
      rfl

/-- The group of a drawing. -/
def groupNode (id : String) (nodes : List (Node String)) : Node String :=
  .element "g" [("id", id)] none nodes none

/-- The root of a drawing with its names stripped. -/
def strippedRoot (width height id : String) (nodes : List (Node String)) : Node String :=
  .element "svg" [("width", width), ("height", height)] none [groupNode id nodes] none

theorem plain_groupNode (id : String) (shows : List.Forall₂ Shows nodes images) :
    ∀ inner ∈ (groupNode id nodes).preorder, inner.Plain := by
  rw [groupNode, Node.preorder, preorderAll_of_shows shows]
  intro inner member
  rcases List.mem_cons.1 member with rfl | member
  · refine ⟨⟨"g", rfl, by decide⟩, ?_, List.nodup_singleton "id"⟩
    intro pair inside
    rw [List.mem_singleton.1 inside]
    exact (by decide : isPlainName "id".toList = true ∧ "id" ≠ "xmlns")
  · exact forall_left shows (fun _ _ head => head.plainNode) inner member

theorem frame_eq (document : Document) (id : String) :
    document.frame [("id", id)] =
      .element "svg" (rootNamespaces ++ document.size) none [groupNode id document.shapes] none := by
  have nodup : (Attributes.names (rootNamespaces ++ document.size)).Nodup :=
    (by decide : ["xmlns", "xmlns:xlink", "width", "height"].Nodup)
  rw [Document.frame, root, element, group, element, Attributes.ofList_eq_self nodup]
  rfl

/-- The namespaces of the elements in a drawing. -/
def drawingScope : Scope :=
  [("xlink".toList, "http://www.w3.org/1999/xlink".toList),
   ([], "http://www.w3.org/2000/svg".toList), ("xml".toList, xmlNamespace.toList)]

theorem enter_root (document : Document) :
    Scope.outermost.enter (rootNamespaces ++ document.size) = some drawingScope := by
  rfl

theorem plain_size (document : Document) : PlainAttributes document.size := by
  constructor
  · intro pair member
    rcases List.mem_cons.1 member with rfl | member
    · exact (by decide : isPlainName "width".toList = true ∧ "width" ≠ "xmlns")
    · rw [List.mem_singleton.1 member]
      exact (by decide : isPlainName "height".toList = true ∧ "height" ≠ "xmlns")
  · exact (by decide : ["width", "height"].Nodup)

/-- The root keeps its size and drops the namespaces that it declares. -/
theorem attributes_root (document : Document) :
    drawingScope.attributes? (rootNamespaces ++ document.size) = some document.size := by
  have dropped : rootNamespaces.filter (fun pair => (boundLabel? pair.1).isNone) = [] := by
    decide
  have free : (rootNamespaces ++ document.size).filter
      (fun pair => (boundLabel? pair.1).isNone) = document.size := by
    rw [List.filter_append, dropped, List.nil_append, (plain_size document).filter_free]
  have different : distinct (Attributes.names (rootNamespaces ++ document.size)) = true :=
    (by decide : distinct ["xmlns", "xmlns:xlink", "width", "height"] = true)
  have differentAgain := distinct_of_nodup (plain_size document).nodup
  rw [Scope.attributes?]
  simp only [free, (plain_size document).mapM_attributeName?, Option.bind_some, different,
    differentAgain, Bool.and_self, if_true]

/-- The names of a drawing are resolved, and stripping them leaves its elements. -/
theorem exists_resolve_frame (document : Document) (id : String)
    (shows : List.Forall₂ Shows document.shapes images) :
    ∃ resolved, Node.resolve? .outermost (document.frame [("id", id)]) = some resolved ∧
      resolved.strip = strippedRoot document.width document.height id document.shapes := by
  have oneLine : '\n' ∉ "http://www.w3.org/2000/svg".toList := by decide
  have open_ : closeBrace ∉ "http://www.w3.org/2000/svg".toList := by decide
  have default : (drawingScope.lookup []).getD [] = "http://www.w3.org/2000/svg".toList := rfl
  have tag : drawingScope.tag? "svg" = some (qualify "http://www.w3.org/2000/svg".toList "svg".toList) :=
    rfl
  obtain ⟨group, resolved, stripped⟩ := exists_resolve? default oneLine open_
    (groupNode id document.shapes) (plain_groupNode id shows)
  have inner : Node.resolveAll? drawingScope [groupNode id document.shapes] = some [group] := by
    rw [Node.resolveAll?, resolved]
    rfl
  refine ⟨.element (qualify "http://www.w3.org/2000/svg".toList "svg".toList) document.size none
    [group] none, ?_, ?_⟩
  · rw [frame_eq]
    simp only [Node.resolve?, enter_root, tag, attributes_root, inner, Option.bind_some,
      Option.map_some]
  · have name : stripName (qualify "http://www.w3.org/2000/svg".toList "svg".toList) = "svg" :=
      stripName_qualify oneLine open_ ⟨by decide, by decide⟩
    rw [Node.strip, name, (plain_size document).strip, Node.stripAll, Node.stripAll, stripped]
    rfl

end

end VectorScene.Drawing
