import VectorScene.Proofs.Drawing.Tree

/-!
# Drawings read back

The text of a drawing is read as the images of the shapes that were drawn, kind by
kind, and without a warning.
-/

namespace VectorScene.Drawing

open VectorScene.Markup VectorScene.Reading

variable {document : Document} {id : String} {nodes : List (Node String)}
  {images : List PixelImage}

/-! ## The text -/

theorem named_frame (id : String) (shows : List.Forall₂ Shows document.shapes images) :
    ∀ inner ∈ (document.frame [("id", id)]).preorder, inner.Named := by
  rw [frame_eq]
  intro inner member
  rcases List.mem_cons.1 member with rfl | inside
  · have rootNames : ∀ name ∈ ["xmlns", "xmlns:xlink", "width", "height"], IsName name.toList := by
      simp only [List.forall_mem_cons]
      exact ⟨rfl, rfl, rfl, rfl, List.forall_mem_nil _⟩
    refine ⟨⟨"svg", rfl, rfl⟩, ?_⟩
    intro pair present
    exact rootNames pair.1 (List.mem_map_of_mem present)
  · rw [Node.preorderAll, Node.preorderAll, List.append_nil] at inside
    exact (plain_groupNode id shows inner inside).named

theorem legal_frame (shows : List.Forall₂ Shows document.shapes images)
    (width : LegalText document.width.toList) (height : LegalText document.height.toList)
    (group : LegalText id.toList) : (document.frame [("id", id)]).Legal := by
  rw [frame_eq]
  constructor
  · intro inner member
    rcases List.mem_cons.1 member with rfl | inside
    · have namespaces : ∀ pair ∈ rootNamespaces, LegalText pair.2.toList := by decide
      intro pair present
      rcases List.mem_append.1 present with declared | sized
      · exact namespaces pair declared
      · rcases List.mem_cons.1 sized with rfl | last
        · exact width
        · rw [List.mem_singleton.1 last]
          exact height
    · rw [Node.preorderAll, Node.preorderAll, List.append_nil, groupNode, Node.preorder,
        preorderAll_of_shows shows] at inside
      rcases List.mem_cons.1 inside with rfl | shape
      · intro pair present
        rw [List.mem_singleton.1 present]
        exact group
      · exact forall_left shows (fun _ _ head => head.legal) inner shape
  · intro text member
    rw [Node.texts, Node.textsAll, Node.textsAll, groupNode, Node.texts,
      textsAll_of_shows shows] at member
    cases member

theorem bare_frame (id : String) (shows : List.Forall₂ Shows document.shapes images) :
    (document.frame [("id", id)]).bare = document.frame [("id", id)] := by
  rw [frame_eq, Node.bare, Node.mapText, Node.mapTextAll, Node.mapTextAll, groupNode, Node.mapText,
    bareAll_of_shows shows]

/-- A drawing is rendered as a text, which is a document of its elements. -/
theorem exists_render {indent : Option Indent} (shows : List.Forall₂ Shows document.shapes images)
    (width : LegalText document.width.toList) (height : LegalText document.height.toList)
    (group : LegalText id.toList) (tab : ∀ chosen ∈ indent, LegalText chosen.tab) :
    ∃ text tree, (document.frame [("id", id)]).render indent = .ok text ∧
      Node.parse text = .ok tree ∧
      tree.bare = strippedRoot document.width document.height id document.shapes := by
  obtain ⟨resolved, known, stripped⟩ := exists_resolve_frame document id shows
  have bareKnown := known
  rw [← bare_frame id shows] at bareKnown
  have spaces : OnlySpace (document.frame [("id", id)]).tail := by
    rw [frame_eq]
    exact onlySpace_none
  obtain ⟨text, tree, rendered, parsed, bare⟩ := Node.exists_parse_render (named_frame id shows)
    (legal_frame shows width height group) spaces bareKnown tab
  exact ⟨text, tree, rendered, parsed, bare.trans stripped⟩

/-- The text of a drawing is a document of its elements. -/
theorem exists_parse {indent : Option Indent} {text : String}
    (shows : List.Forall₂ Shows document.shapes images)
    (width : LegalText document.width.toList) (height : LegalText document.height.toList)
    (group : LegalText id.toList) (tab : ∀ chosen ∈ indent, LegalText chosen.tab)
    (rendered : (document.frame [("id", id)]).render indent = .ok text) :
    ∃ tree, Node.parse text = .ok tree ∧
      tree.bare = strippedRoot document.width document.height id document.shapes := by
  obtain ⟨_, tree, same, parsed, bare⟩ := exists_render shows width height group tab
  rw [rendered] at same
  cases same
  exact ⟨tree, parsed, bare⟩

/-! ## The elements -/

/-- Images in the order in which they are read: the lines first, then the circles,
and so on, those of one kind in drawing order. -/
def byKind (images : List PixelImage) : List PixelImage :=
  [Kind.line, .circle, .polygon, .rect, .ellipse].flatMap fun kind =>
    images.filter fun shown => shown.kind = kind

theorem mem_of_mem_byKind {shown : PixelImage} (member : shown ∈ byKind images) :
    shown ∈ images := by
  obtain ⟨kind, -, inside⟩ := List.mem_flatMap.1 member
  exact List.mem_of_mem_filter inside

theorem mem_byKind {shown : PixelImage} (member : shown ∈ images) : shown ∈ byKind images :=
  List.mem_flatMap.2
    ⟨shown.kind, Kind.mem_all shown.kind, List.mem_filter.2 ⟨member, decide_eq_true rfl⟩⟩

/-- Shape elements in the order in which they are read. -/
def elementsByKind (nodes : List (Node String)) : List (Kind × Node String) :=
  Kind.all.flatMap fun kind =>
    (nodes.filter fun node => node.tag? = some kind.tag).map (kind, ·)

/-- An element that shows an image is of the kind of the image. -/
def ShowsElement (element : Kind × Node String) (shown : PixelImage) : Prop :=
  element.1 = shown.kind ∧ Shows element.2 shown

theorem shows_of_kind (shows : List.Forall₂ Shows nodes images) (kind : Kind) :
    List.Forall₂ ShowsElement
      ((nodes.filter fun node => node.tag? = some kind.tag).map (kind, ·))
      (images.filter fun shown => shown.kind = kind) := by
  induction shows with
  | nil => exact .nil
  | @cons node shown _ _ head _ ih =>
      by_cases same : shown.kind = kind
      · have tagged : node.tag? = some kind.tag := same ▸ head.tag?
        simp only [List.filter_cons, tagged, same, decide_true, if_true, List.map_cons]
        exact .cons ⟨same.symm, head⟩ ih
      · have untagged : ¬node.tag? = some kind.tag := by
          rw [head.tag?]
          exact fun tags => same (Kind.tag_injective (Option.some.inj tags))
        simp only [List.filter_cons, untagged, same, decide_false, Bool.false_eq_true, if_false]
        exact ih

/-- The elements of a drawing show its images also in the order in which they are read. -/
theorem shows_byKind (shows : List.Forall₂ Shows nodes images) :
    List.Forall₂ ShowsElement (elementsByKind nodes) (byKind images) := by
  have ofKinds (kinds : List Kind) : List.Forall₂ ShowsElement
      (kinds.flatMap fun kind =>
        (nodes.filter fun node => node.tag? = some kind.tag).map (kind, ·))
      (kinds.flatMap fun kind => images.filter fun shown => shown.kind = kind) := by
    induction kinds with
    | nil => exact .nil
    | cons kind rest ih =>
        rw [List.flatMap_cons, List.flatMap_cons]
        exact List.rel_append (shows_of_kind shows kind) ih
  exact ofKinds Kind.all

/-- Elements are read as the images that they show. -/
theorem reads_of_shows {elements : List (Kind × Node String)}
    (shows : List.Forall₂ ShowsElement elements images)
    (small : ∀ shown ∈ images, ∀ position ∈ shown.scalars, |position| < 2 ^ 1024 - 2 ^ 970) :
    List.Forall₂ (fun (element : Kind × Node String) result =>
      Reading.shape element.1 element.2 = .ok result) elements (images.map asRead) := by
  induction shows with
  | nil => exact .nil
  | @cons element shown _ _ head _ ih =>
      obtain ⟨same, shows⟩ := head
      rw [List.forall_mem_cons] at small
      rw [List.map_cons]
      refine .cons ?_ (ih small.2)
      rw [same]
      exact shows.reads small.1

/-- The elements that are read from the group of a drawing are those of its shapes. -/
theorem candidates_group (attributes : Attributes String)
    (shows : List.Forall₂ Shows nodes images) :
    candidates (.element "g" attributes none nodes none) = elementsByKind nodes := by
  rw [candidates, elementsByKind, Node.preorder, preorderAll_of_shows shows]
  congr 1
  funext kind
  have other : ¬some "g" = some kind.tag := by
    cases kind <;> decide
  rw [List.filter_cons_of_neg]
  exact fun same => other (of_decide_eq_true same)

/-- The elements that are read from a drawing are those of its only child. -/
theorem candidates_root (attributes : Attributes String) (child : Node String) :
    candidates (.element "svg" attributes none [child] none) = candidates child := by
  rw [candidates, candidates, Node.preorder, Node.preorderAll, Node.preorderAll, List.append_nil]
  congr 1
  funext kind
  have other : ¬some "svg" = some kind.tag := by
    cases kind <;> decide
  rw [List.filter_cons_of_neg]
  exact fun same => other (of_decide_eq_true same)

theorem group?_strippedRoot (width height id : String) (nodes : List (Node String)) :
    group? id (strippedRoot width height id nodes) = some (groupNode id nodes) := by
  simp [group?, strippedRoot, groupNode, Node.preorder, Node.preorderAll, Node.tag?, Node.get?,
    Node.attributes, Attributes.get?]

theorem plain_strippedRoot (id : String) (shows : List.Forall₂ Shows document.shapes images) :
    ∀ inner ∈ (strippedRoot document.width document.height id document.shapes).preorder,
      inner.Plain := by
  rw [strippedRoot, Node.preorder, Node.preorderAll, Node.preorderAll, List.append_nil]
  intro inner member
  rcases List.mem_cons.1 member with rfl | inside
  · exact ⟨⟨"svg", rfl, by decide⟩, plain_size document⟩
  · exact plain_groupNode id shows inner inside

/-- Elements that can all be read are read without a warning. -/
theorem shapes_of_reads {settings : Settings} (inPixels : settings.normalize.isOn = false)
    {elements : List (Kind × Node String)} {results : List ReadShape}
    (reads : List.Forall₂ (fun (element : Kind × Node String) result =>
      Reading.shape element.1 element.2 = .ok result) elements results) :
    shapes settings elements = ⟨[], .ok results⟩ := by
  induction reads with
  | nil => rfl
  | @cons element result _ _ head _ ih =>
      have finished : finish settings result = .ok result := by
        rw [finish, inPixels]
        rfl
      rw [shapes, head, ih]
      simp only [finished, Run.ofExcept_ok_bind]
      rfl

theorem ofTree_of_bare {settings : Settings} (inPixels : settings.normalize.isOn = false)
    (shows : List.Forall₂ Shows document.shapes images)
    (small : ∀ shown ∈ images, ∀ position ∈ shown.scalars, |position| < 2 ^ 1024 - 2 ^ 970)
    {tree : Node String}
    (bare : tree.bare = strippedRoot document.width document.height id document.shapes) :
    ∀ groupId ∈ [none, some id],
      ofTree settings groupId tree = ⟨[], .ok ((byKind images).map asRead)⟩ := by
  have read : shapes settings (candidates (groupNode id document.shapes)) =
      ⟨[], .ok ((byKind images).map asRead)⟩ := by
    rw [groupNode, candidates_group _ shows]
    exact shapes_of_reads inPixels (reads_of_shows (shows_byKind shows)
      fun shown member => small shown (mem_of_mem_byKind member))
  have whole : candidates (strippedRoot document.width document.height id document.shapes) =
      candidates (groupNode id document.shapes) := candidates_root _ _
  have stripped := strip_eq_self _ (plain_strippedRoot id shows)
  intro groupId member
  rw [← ofTree_bare, bare]
  rcases List.mem_cons.1 member with rfl | member
  · simp only [ofTree, stripped, whole, read]
  · rw [List.mem_singleton.1 member]
    simp only [ofTree, stripped, group?_strippedRoot, read]

/-! ## The round trip -/

/-- A scene that is drawn as a text is read from the text as the images of its
shapes, kind by kind and without a warning.  It does not matter how the text is
indented, and whether the group is asked for. -/
theorem ofText_render {Thing : Type} [Shown Thing] {settings : Settings}
    {scene : List (Command Thing)} {indent : Option Indent} {id text : String}
    (group : settings.groupId = .text id) (legal : LegalText id.toList)
    (tab : ∀ tab, indent = some (.text tab) → LegalText tab.toList)
    (inPixels : settings.normalize.isOn = false)
    (written : (render settings scene indent).outcome = .ok text) :
    ∃ images, (drawnShapes (flatten scene)).mapM (image settings.canvas) = .ok images ∧
      ((∀ shown ∈ images, ∀ position ∈ shown.scalars, |position| < 2 ^ 1024 - 2 ^ 970) →
        ∀ groupId ∈ [none, some id],
          ofText settings groupId text = ⟨[], .ok ((byKind images).map asRead)⟩) := by
  rw [render, Run.outcome_bind, bind_eq_ok] at written
  obtain ⟨document, drawn, rendered⟩ := written
  rw [ofScene, Run.outcome_bind, bind_eq_ok] at drawn
  obtain ⟨nodes, leaves, drawn⟩ := drawn
  rw [Run.outcome_bind, bind_eq_ok] at drawn
  obtain ⟨width, widthWritten, drawn⟩ := drawn
  rw [Run.outcome_bind, bind_eq_ok] at drawn
  obtain ⟨height, heightWritten, same⟩ := drawn
  cases same
  obtain ⟨images, imaged, shows⟩ := exists_images leaves
  refine ⟨images, imaged, ?_⟩
  intro small groupId member
  simp only [Document.render, group, Run.outcome_ofExcept] at rendered
  have drawnShows : List.Forall₂ Shows (Document.mk width height settings.groupId nodes).shapes
      images := shows
  obtain ⟨tree, parsed, bare⟩ := exists_parse drawnShows (legalText_written widthWritten)
    (legalText_written heightWritten) legal (legalText_tab tab) rendered
  rw [ofText, parsed, Run.ofExcept_ok_bind]
  exact ofTree_of_bare inPixels shows small bare groupId member

/-- A circle and a polygon in nested groups, a text that is no command, and a line
that starts beside the canvas. -/
def nestedScene : List Command :=
  let half : Value := .number (.real (.ofRat (1 / 2)))
  let whole (position : Int) : Value := .number (.integer position)
  [.glow
    [.shape (.circle half (whole 0) (whole (-1)) (whole (-1))),
     .glow
      [.shape (.polygon [.several [whole 0, half], .several [whole 1, whole (-1)]]
        (whole 0x99339900))]],
   .foreign (.value (.text "glow")),
   .shape (.line (whole (-2)) (whole (-1)) (whole 1) half (whole 0x123456789ABC))]

/-- Settings with a group whose identifier has to be escaped. -/
def quotedSettings : Settings where
  canvas := ⟨400, 300, by decide, by decide⟩
  strict := .flag true
  normalize := .flag false
  groupId := .text "a\"<b>"

theorem ofText_render_nested :
    ∃ text, (render quotedSettings nestedScene (some (.text "\t"))).outcome = .ok text ∧
      ∀ groupId ∈ [none, some "a\"<b>"],
        ofText quotedSettings groupId text =
          ⟨[], .ok
            [.line (.integer (-200)) (.integer 0) (.integer 400) (.integer 225) 0x56789AFF,
             .circle (.integer 300) (.integer 150) (.integer 0) 0xFFFFFFFF,
             .polygon [(.integer 200, .integer 225), (.integer 400, .integer 0)] 0x993399FF]⟩ := by
  have succeeds : (render quotedSettings nestedScene (some (.text "\t"))).outcome.isOk = true := by
    decide +kernel
  have known : (drawnShapes (flatten nestedScene)).mapM (image quotedSettings.canvas) =
      .ok [.circle 300 150 0 0xFFFFFFFF, .polygon [(200, 225), (400, 0)] 0x993399FF,
        .line (-200) 0 400 225 0x56789AFF] := by
    decide +kernel
  have tab : ∀ tab, some (.text "\t") = some (Indent.text tab) → LegalText tab.toList := by
    rintro _ ⟨⟩
    decide
  cases written : (render quotedSettings nestedScene (some (.text "\t"))).outcome with
  | error fault =>
      rw [written] at succeeds
      cases succeeds
  | ok text =>
      obtain ⟨images, imaged, read⟩ := ofText_render rfl (by decide) tab rfl written
      rw [known] at imaged
      cases imaged
      exact ⟨text, rfl, read (by decide +kernel)⟩

end VectorScene.Drawing
