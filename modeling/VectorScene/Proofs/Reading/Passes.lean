import Mathlib.Data.List.Perm.Basic
import VectorScene.Proofs.Markup.Strip
import VectorScene.Proofs.Reading.Outcome

/-!
# Passes over a document

A document is read in one pass for each kind of shape.  Together the passes take
every shape element of the document once, and what they find depends on the
geometry attributes and the styles of these elements alone.
-/

namespace VectorScene.Reading

open VectorScene.Markup

/-! ## Shape elements -/

/-- The shape elements of a tree in document order, stripped and with their kinds. -/
def shapeElements (tree : Node String) : List (Kind × Node String) :=
  tree.preorder.filterMap fun node =>
    ((node.tag?.map stripName).bind Kind.ofTag?).map (·, node.strip)

/-- Elements in the order in which they are read: by kind, and in document order
within a kind. -/
def passes (elements : List (Kind × Node String)) : List (Kind × Node String) :=
  Kind.all.flatMap fun kind => elements.filter fun element => element.1 = kind

/-- The nodes with the tag of a kind are the shape elements of the kind. -/
theorem filter_tag_eq (kind : Kind) (nodes : List (Node String)) :
    ((nodes.map Node.strip).filter fun node => node.tag? = some kind.tag).map (kind, ·) =
      (nodes.filterMap fun node =>
        ((node.tag?.map stripName).bind Kind.ofTag?).map (·, node.strip)).filter
          fun element => element.1 = kind := by
  induction nodes with
  | nil => rfl
  | cons node rest ih =>
      rw [List.map_cons, List.filter_cons, Node.tag?_strip]
      cases found : (node.tag?.map stripName).bind Kind.ofTag? with
      | none =>
          have untagged : ¬node.tag?.map stripName = some kind.tag := by
            intro tagged
            rw [tagged, Option.bind_some, Kind.ofTag?_eq_some.2 rfl] at found
            cases found
          rw [List.filterMap_cons_none (by rw [found]; rfl), ← ih]
          simp only [untagged, decide_false, Bool.false_eq_true, if_false]
      | some other =>
          obtain ⟨tag, tagged, named⟩ := Option.bind_eq_some_iff.1 found
          rw [Kind.ofTag?_eq_some] at named
          rw [List.filterMap_cons_some (by rw [found]; rfl), List.filter_cons, ← ih, tagged, ← named]
          by_cases same : other = kind
          · subst same
            simp only [decide_true, if_true, List.map_cons]
          · have different : ¬some other.tag = some kind.tag := by
              intro tags
              exact same (Kind.tag_injective (Option.some.inj tags))
            simp only [same, different, decide_false, Bool.false_eq_true, if_false]

/-- What is read of a document are its shape elements, pass by pass. -/
theorem candidates_strip (tree : Node String) :
    candidates tree.strip = passes (shapeElements tree) := by
  rw [candidates, passes, Node.preorder_strip]
  congr 1
  funext kind
  exact filter_tag_eq kind tree.preorder

/-! ## Every element once -/

/-- Putting an element in front of a list adds it to the part of its kind only. -/
theorem flatMap_filter_cons {kinds : List Kind} (nodup : kinds.Nodup)
    {element : Kind × Node String} (known : element.1 ∈ kinds)
    (rest : List (Kind × Node String)) :
    (kinds.flatMap fun kind => (element :: rest).filter fun other => other.1 = kind).Perm
      (element :: kinds.flatMap fun kind => rest.filter fun other => other.1 = kind) := by
  induction kinds with
  | nil => cases known
  | cons kind kinds ih =>
      rw [List.nodup_cons] at nodup
      rw [List.flatMap_cons, List.flatMap_cons, List.filter_cons]
      by_cases same : element.1 = kind
      · -- The later kinds are others, so that the element is in no later part.
        have others : (kinds.flatMap fun kind =>
            (element :: rest).filter fun other => other.1 = kind) =
              kinds.flatMap fun kind => rest.filter fun other => other.1 = kind := by
          refine List.flatMap_congr fun later member => ?_
          have different : ¬element.1 = later := fun equal => nodup.1 (same ▸ equal ▸ member)
          exact List.filter_cons_of_neg (by simp [different])
        rw [others]
        simp [same]
      · have later := (List.mem_cons.1 known).resolve_left same
        simp only [same, decide_false, Bool.false_eq_true, if_false]
        exact ((ih nodup.2 later).append_left _).trans List.perm_middle

/-- The passes take every element once. -/
theorem passes_perm (elements : List (Kind × Node String)) : (passes elements).Perm elements := by
  induction elements with
  | nil => exact .refl _
  | cons element rest ih =>
      exact (flatMap_filter_cons (by decide) (Kind.mem_all element.1) rest).trans (ih.cons element)

/-! ## Results of elements -/

/-- The shape of an element in pixels, if it can be read. -/
def read? (element : Kind × Node String) : Option ReadShape :=
  (shape element.1 element.2).toOption

/-- Without normalizing, an element is finished as it is read. -/
theorem finished?_eq_read? {settings : Settings} (inPixels : settings.normalize.isOn = false) :
    finished? settings = read? := by
  funext element
  rw [finished?, read?]
  cases shape element.1 element.2 with
  | error cause => rfl
  | ok pixels =>
      simp only [finish, inPixels, Bool.false_eq_true, if_false]
      rfl

/-- What is read of an element is of its kind. -/
theorem kind_of_shape {kind : Kind} {node : Node String} {result : ReadShape}
    (read : shape kind node = .ok result) : result.kind = kind := by
  have same := (Shape.mapM_eq_ok.1 read).kind_eq
  rw [← same]
  cases kind <;> rfl

/-- An element gives either one shape of its kind or one warning. -/
theorem read?_or_skipped? (element : Kind × Node String) :
    (∃ result, read? element = some result ∧ result.kind = element.1 ∧ skipped? element = none) ∨
      ∃ cause, read? element = none ∧ skipped? element = some (.skipped element.1 cause) := by
  obtain ⟨kind, node⟩ := element
  cases read : shape kind node with
  | ok result =>
      refine .inl ⟨result, ?_, kind_of_shape read, skipped?_of_ok read⟩
      rw [read?, read]
      rfl
  | error cause =>
      refine .inr ⟨cause, ?_, skipped?_of_error read⟩
      rw [read?, read]
      rfl

theorem length_read?_add_skipped? (elements : List (Kind × Node String)) :
    (elements.filterMap read?).length + (elements.filterMap skipped?).length = elements.length := by
  induction elements with
  | nil => rfl
  | cons element rest ih =>
      obtain ⟨result, read, -, unskipped⟩ | ⟨cause, unread, skipped⟩ := read?_or_skipped? element
      · rw [List.filterMap_cons_some read, List.filterMap_cons_none unskipped, List.length_cons,
          List.length_cons, ← ih, Nat.add_right_comm]
      · rw [List.filterMap_cons_none unread, List.filterMap_cons_some skipped, List.length_cons,
          List.length_cons, ← ih, Nat.add_assoc]

/-! ## What matters of an element -/

/-- The kind of an element, its geometry attributes and its style. -/
def inspected (element : Kind × Node String) : Kind × List (Option String) × Option String :=
  (element.1, element.1.geometry.map element.2.get?, element.2.get? "style")

/-- A shape is read from the geometry attributes of its kind and the style. -/
theorem shape_of_inspected {first second : Kind × Node String}
    (same : inspected first = inspected second) :
    shape first.1 first.2 = shape second.1 second.2 := by
  obtain ⟨kind, node⟩ := first
  obtain ⟨kind', other⟩ := second
  simp only [inspected, Prod.mk.injEq] at same
  obtain ⟨rfl, geometry, style⟩ := same
  have looked (name : String) (member : name ∈ kind.geometry) : node.get? name = other.get? name :=
    List.map_inj_left.1 geometry name member
  have numbers (name : String) (member : name ∈ kind.geometry) :
      number node name = number other name := by
    rw [number, number, looked name member]
  have lists (name : String) (member : name ∈ kind.geometry) :
      points node name = points other name := by
    rw [points, points, looked name member]
  rw [shape, shape, style]
  cases kind with
  | line =>
      rw [Kind.template, Shape.mapM, Shape.mapM, numbers "x1" (by decide), numbers "y1" (by decide),
        numbers "x2" (by decide), numbers "y2" (by decide)]
  | circle =>
      rw [Kind.template, Shape.mapM, Shape.mapM, numbers "cx" (by decide), numbers "cy" (by decide),
        numbers "r" (by decide)]
  | polygon => rw [Kind.template, Shape.mapM, Shape.mapM, lists "points" (by decide)]
  | rect =>
      rw [Kind.template, Shape.mapM, Shape.mapM, numbers "x" (by decide), numbers "y" (by decide),
        numbers "width" (by decide), numbers "height" (by decide)]
  | ellipse =>
      rw [Kind.template, Shape.mapM, Shape.mapM, numbers "cx" (by decide), numbers "cy" (by decide),
        numbers "rx" (by decide), numbers "ry" (by decide)]

/-- Elements that agree in what matters are read alike. -/
theorem shapes_of_inspected (settings : Settings) {first second : List (Kind × Node String)}
    (same : first.map inspected = second.map inspected) :
    shapes settings first = shapes settings second := by
  induction first generalizing second with
  | nil =>
      rw [List.map_nil, eq_comm, List.map_eq_nil_iff] at same
      rw [same]
  | cons element rest ih =>
      cases second with
      | nil => cases same
      | cons other others =>
          rw [List.map_cons, List.map_cons, List.cons.injEq] at same
          have kinds : element.1 = other.1 := (Prod.mk.inj same.1).1
          rw [shapes, shapes, shape_of_inspected same.1, kinds, ih same.2]

theorem map_inspected_passes (elements : List (Kind × Node String)) :
    (passes elements).map inspected =
      Kind.all.flatMap fun kind => (elements.map inspected).filter fun part => part.1 = kind := by
  rw [passes, List.map_flatMap]
  congr 1
  funext kind
  rw [List.filter_map]
  rfl

/-- Trees whose shape elements agree in what matters are read alike. -/
theorem ofTree_of_inspected (settings : Settings) {first second : Node String}
    (same : (shapeElements first).map inspected = (shapeElements second).map inspected) :
    ofTree settings none first = ofTree settings none second := by
  have aligned : (passes (shapeElements first)).map inspected =
      (passes (shapeElements second)).map inspected := by
    rw [map_inspected_passes, map_inspected_passes, same]
  simp only [ofTree, candidates_strip, shapes_of_inspected settings aligned]

/-! ## Documents -/

/-- A lenient reading in pixels takes every shape element of a document once, by
kind and in document order within a kind, and gives a shape or a warning for it.
Nothing else in the document has any effect. -/
theorem ofTree_passes {settings : Settings} (lenient : settings.strict.isOn = false)
    (inPixels : settings.normalize.isOn = false) (tree : Node String) :
    ∃ warnings commands, ofTree settings none tree = ⟨warnings, .ok commands⟩ ∧
      warnings = (passes (shapeElements tree)).filterMap skipped? ∧
      commands = (passes (shapeElements tree)).filterMap read? ∧
      (passes (shapeElements tree)).Perm (shapeElements tree) ∧
      (∀ element ∈ shapeElements tree,
        (∃ result, read? element = some result ∧ result.kind = element.1 ∧
          skipped? element = none) ∨
        ∃ cause, read? element = none ∧ skipped? element = some (.skipped element.1 cause)) ∧
      commands.length + warnings.length = (shapeElements tree).length ∧
      ∀ other, (shapeElements other).map inspected = (shapeElements tree).map inspected →
        ofTree settings none other = ofTree settings none tree := by
  have once := passes_perm (shapeElements tree)
  have unbounded : ∀ element, ¬Overflows settings element := by
    rintro element ⟨normalizing, -⟩
    rw [inPixels] at normalizing
    cases normalizing
  have read : ofTree settings none tree =
      ⟨(passes (shapeElements tree)).filterMap skipped?,
        .ok ((passes (shapeElements tree)).filterMap read?)⟩ := by
    rw [← finished?_eq_read? inPixels, ← candidates_strip]
    obtain ⟨⟨element, -, overflows⟩, -⟩ | ⟨-, same⟩ :=
      shapes_ends_lenient lenient (candidates tree.strip)
    · exact absurd overflows (unbounded element)
    · exact same
  refine ⟨_, _, read, rfl, rfl, once, ?_, ?_, ?_⟩
  · intro element _
    exact read?_or_skipped? element
  · rw [length_read?_add_skipped?, once.length_eq]
  · intro other same
    exact ofTree_of_inspected settings same

/-- A circle in a line, a comment, and a polygon with a namespace and no points. -/
def crowdedTree : Node String :=
  .element "line" [("x1", "1"), ("y1", "2"), ("x2", "3"), ("y2", "4"), ("style", "stroke:#000000")]
    (some "text")
    [.element "circle" [("id", "c"), ("cx", "1"), ("cy", "2"), ("r", "3"),
       ("style", "stroke:#993399")] none [] (some "tail"),
     .remark .comment "line" none,
     .element "{urn:shapes}polygon" [] none [] none,
     .element "g" [] none [.element "line" [("x1", "0")] none [] none] none]
    none

theorem ofTree_passes_crowded :
    let settings : Settings := ⟨⟨400, 400, by decide, by decide⟩, .absent, .flag false, .absent⟩
    ∃ warnings commands, ofTree settings none crowdedTree = ⟨warnings, .ok commands⟩ ∧
      warnings =
        [.skipped .line (.missingAttribute "y1"), .skipped .polygon (.missingAttribute "points")] ∧
      commands =
        [.line (.integer 1) (.integer 2) (.integer 3) (.integer 4) 0xFF,
         .circle (.integer 1) (.integer 2) (.integer 3) 0x993399FF] ∧
      commands.length + warnings.length = (shapeElements crowdedTree).length := by
  intro settings
  have warned : (passes (shapeElements crowdedTree)).filterMap skipped? =
      [.skipped .line (.missingAttribute "y1"), .skipped .polygon (.missingAttribute "points")] := by
    decide +kernel
  have drawn : (passes (shapeElements crowdedTree)).filterMap read? =
      [.line (.integer 1) (.integer 2) (.integer 3) (.integer 4) 0xFF,
       .circle (.integer 1) (.integer 2) (.integer 3) 0x993399FF] := by
    decide +kernel
  have lenient : settings.strict.isOn = false := rfl
  have inPixels : settings.normalize.isOn = false := rfl
  obtain ⟨warnings, commands, read, skipped, kept, -, -, counted, -⟩ :=
    ofTree_passes lenient inPixels crowdedTree
  exact ⟨warnings, commands, read, skipped.trans warned, kept.trans drawn, counted⟩

end VectorScene.Reading
