import VectorScene.Proofs.Markup.Legal

/-!
# Visible characters of indented trees

Indenting a tree adds and removes white space only, except that the tail of a last child
is replaced whatever it holds.  So the visible characters of a tree are all kept if and
only if none of them stands in such a tail.
-/

namespace VectorScene.Markup

open VectorScene.Text

/-- The characters of a text that are no white space. -/
def visibleText (text : Option String) : List Char :=
  (text.getD "").toList.filter fun c => !isBlank c

theorem visibleText_eq_nil {text : Option String} :
    visibleText text = [] ↔ isBlankText text = true := by
  cases text with
  | none => exact iff_of_true rfl rfl
  | some content => simp [visibleText, isBlankText, allBlank]

/-- Filling a blank text with white space does not change what is visible of it. -/
theorem visibleText_fillBlank {filling : String} (blank : visibleText (some filling) = [])
    (text : Option String) : visibleText (fillBlank text filling) = visibleText text := by
  rw [fillBlank]
  split
  next isBlank => rw [blank, visibleText_eq_nil.2 isBlank]
  next => rfl

theorem visibleText_lineBreak {tab : List Char} (blank : allBlank tab = true) (level : Nat) :
    visibleText (some (lineBreak tab level)) = [] := by
  have indentation : allBlank (List.replicate level tab).flatten = true := by
    induction level with
    | zero => rfl
    | succ level ih =>
        rw [List.replicate_succ, List.flatten_cons, allBlank_append, blank, ih]
        rfl
  rw [visibleText_eq_nil, lineBreak, isBlankText, Option.all_some, String.toList_ofList,
    allBlank_cons, indentation]
  rfl

theorem allBlank_tab {indent : Indent}
    (blank : ∀ tab, indent = .text tab → allBlank tab.toList = true) :
    allBlank indent.tab = true := by
  cases indent with
  | text tab => exact blank tab rfl
  | spaces count =>
      refine List.all_eq_true.2 fun c member => ?_
      rw [(List.mem_replicate.1 member).2]
      rfl

namespace Node

/-- The visible characters of the texts and tails of a tree in document order. -/
def visible (node : Node String) : List Char :=
  node.texts.flatMap fun text => visibleText (some text)

/-- The visible characters of a list of trees in document order. -/
def visibleAll (nodes : List (Node String)) : List Char :=
  (textsAll nodes).flatMap fun text => visibleText (some text)

/-- The visible characters of a tree before its tail. -/
def inside : Node String → List Char
  | .element _ _ text children _ => visibleText text ++ visibleAll children
  | .remark _ _ _ => []

mutual

/-- A tree without the tails of last children. -/
def openEnded : Node String → Node String
  | .element tag attributes text children tail =>
      .element tag attributes text (closeLast "" (openEndedAll children)) tail
  | .remark kind content tail => .remark kind content tail

/-- A list of trees without the tails of last children in them. -/
def openEndedAll : List (Node String) → List (Node String)
  | [] => []
  | node :: rest => openEnded node :: openEndedAll rest

end

/-- Whether nothing visible stands between the last child of a node and its end. -/
def Closes (node : Node String) : Prop :=
  ∀ last ∈ node.children.getLast?, isBlankText last.tail = true

/-! ## Visible characters of parts -/

theorem flatMap_toList (text : Option String) :
    text.toList.flatMap (fun content => visibleText (some content)) = visibleText text := by
  cases text with
  | none => rfl
  | some content => exact List.flatMap_singleton _ content

theorem visible_eq (node : Node String) : node.visible = node.inside ++ visibleText node.tail := by
  cases node with
  | element tag attributes text children tail =>
      simp only [visible, inside, visibleAll, texts, List.flatMap_append, flatMap_toList, Node.tail,
        List.append_assoc]
  | remark kind content tail => exact flatMap_toList tail

@[simp] theorem visibleAll_nil : visibleAll [] = [] := rfl

@[simp] theorem visibleAll_cons (node : Node String) (rest : List (Node String)) :
    visibleAll (node :: rest) = node.visible ++ visibleAll rest :=
  List.flatMap_append

@[simp] theorem visible_withTail (node : Node String) (tail : Option String) :
    (node.withTail tail).visible = node.inside ++ visibleText tail := by
  rw [visible_eq]
  cases node <;> rfl

@[simp] theorem tail_openEnded (node : Node String) : node.openEnded.tail = node.tail := by
  cases node <;> rfl

/-! ## Layout -/

section

variable {tab : List Char} (blank : allBlank tab = true)

include blank

theorem visibleText_tail_layout (level : Nat) (node : Node String) :
    visibleText (layout tab level node).tail = visibleText node.tail := by
  have filled := visibleText_fillBlank (visibleText_lineBreak blank level) node.tail
  cases node with
  | element tag attributes text children tail =>
      simp only [layout, Node.tail]
      split
      · rfl
      · exact filled
  | remark kind content tail =>
      simp only [layout, Node.tail]
      split
      · rfl
      · exact filled

mutual

/-- What a layout shows of a tree before its tail is all but the tails of last children. -/
theorem inside_layout (level : Nat) (node : Node String) :
    (layout tab level node).inside = node.openEnded.inside := by
  match node with
  | .element tag attributes text children tail =>
      have filled := visibleText_fillBlank (visibleText_lineBreak blank (level + 1)) text
      rw [layout, openEnded, inside, inside, visibleAll_layout level children]
      split
      · rfl
      · rw [filled]
  | .remark kind content tail => rfl

theorem visibleAll_layout (level : Nat) (nodes : List (Node String)) :
    visibleAll (closeLast (lineBreak tab level) (layoutAll tab (level + 1) nodes)) =
      visibleAll (closeLast "" (openEndedAll nodes)) := by
  match nodes with
  | [] => rfl
  | [last] =>
      have ended := visibleText_lineBreak blank level
      simp only [layoutAll, openEndedAll, closeLast, visibleAll_cons, visible_withTail, ended,
        inside_layout (level + 1) last]
      rfl
  | node :: next :: rest =>
      have later := visibleAll_layout level (next :: rest)
      simp only [layoutAll, openEndedAll, closeLast, visibleAll_cons] at later ⊢
      rw [later, visible_eq, visible_eq, inside_layout (level + 1) node,
        visibleText_tail_layout blank (level + 1) node, tail_openEnded]

end

end

/-! ## What is lost -/

theorem append_eq_iff_of_sublist {α : Type} {first second before after : List α}
    (left : first.Sublist before) (right : second.Sublist after) :
    first ++ second = before ++ after ↔ first = before ∧ second = after := by
  constructor
  · intro same
    have lengths := congrArg List.length same
    rw [List.length_append, List.length_append] at lengths
    have shorter := left.length_le
    have shorter' := right.length_le
    exact ⟨left.eq_of_length (by omega), right.eq_of_length (by omega)⟩
  · rintro ⟨rfl, rfl⟩
    rfl

mutual

/-- Without the tails of last children, a tree shows a part of its characters in order. -/
theorem inside_openEnded_sublist (node : Node String) :
    node.openEnded.inside.Sublist node.inside := by
  match node with
  | .element tag attributes text children tail =>
      rw [openEnded, inside, inside]
      exact (visibleAll_openEnded_sublist children).append_left _
  | .remark kind content tail => exact .refl _

theorem visibleAll_openEnded_sublist (nodes : List (Node String)) :
    (visibleAll (closeLast "" (openEndedAll nodes))).Sublist (visibleAll nodes) := by
  match nodes with
  | [] => exact .refl _
  | [last] =>
      simp only [openEndedAll, closeLast, visibleAll_cons, visible_withTail, visible_eq last]
      exact ((inside_openEnded_sublist last).append (List.nil_sublist _)).append_right _
  | node :: next :: rest =>
      have later := visibleAll_openEnded_sublist (next :: rest)
      simp only [openEndedAll, closeLast] at later ⊢
      rw [visibleAll_cons, visibleAll_cons node, visible_eq, visible_eq node, tail_openEnded]
      exact ((inside_openEnded_sublist node).append_right _).append later

end

mutual

/-- Nothing is lost exactly when nothing visible stands in the tail of a last child. -/
theorem inside_openEnded_eq_iff (node : Node String) :
    node.openEnded.inside = node.inside ↔ ∀ inner ∈ node.preorder, inner.Closes := by
  match node with
  | .element tag attributes text children tail =>
      rw [openEnded, inside, inside, List.append_right_inj, visibleAll_openEnded_eq_iff children,
        preorder, List.forall_mem_cons]
      rfl
  | .remark kind content tail =>
      rw [preorder, List.forall_mem_singleton]
      exact iff_of_true rfl nofun

theorem visibleAll_openEnded_eq_iff (nodes : List (Node String)) :
    visibleAll (closeLast "" (openEndedAll nodes)) = visibleAll nodes ↔
      (∀ last ∈ nodes.getLast?, isBlankText last.tail = true) ∧
        ∀ inner ∈ preorderAll nodes, inner.Closes := by
  match nodes with
  | [] => exact iff_of_true rfl ⟨nofun, List.forall_mem_nil _⟩
  | [last] =>
      have tailed : visibleText (some "") = visibleText last.tail ↔
          isBlankText last.tail = true := by
        rw [← visibleText_eq_nil]
        exact eq_comm
      have shorter : (visibleText (some "")).Sublist (visibleText last.tail) :=
        List.nil_sublist _
      simp only [openEndedAll, closeLast, visibleAll_cons, visible_withTail, visible_eq last,
        visibleAll_nil, List.append_nil, preorderAll]
      rw [append_eq_iff_of_sublist (inside_openEnded_sublist last) shorter, tailed,
        inside_openEnded_eq_iff last, and_comm, List.getLast?_singleton]
      simp
  | node :: next :: rest =>
      have later := visibleAll_openEnded_eq_iff (next :: rest)
      have shorter := visibleAll_openEnded_sublist (next :: rest)
      simp only [openEndedAll, closeLast] at later shorter ⊢
      rw [visibleAll_cons, visibleAll_cons node, visible_eq, visible_eq node, tail_openEnded,
        append_eq_iff_of_sublist ((inside_openEnded_sublist node).append_right _) shorter,
        List.append_left_inj, preorderAll, List.forall_mem_append, List.getLast?_cons_cons,
        inside_openEnded_eq_iff node, later]
      exact and_left_comm

end

/-- A tree that is indented with white space shows the characters of the tree in order,
without those in the tails of last children.  It shows all of them exactly when there are
none in such a tail. -/
theorem visible_indented (root : Node String) {indent : Indent}
    (blank : ∀ tab, indent = .text tab → allBlank tab.toList = true) :
    (root.indented (some indent)).visible = root.openEnded.visible ∧
      (root.indented (some indent)).visible.Sublist root.visible ∧
      ((root.indented (some indent)).visible = root.visible ↔
        ∀ inner ∈ root.preorder, inner.Closes) := by
  have kept : (root.indented (some indent)).visible = root.openEnded.visible := by
    rw [indented, visible_eq, visible_eq, tail_openEnded,
      inside_layout (allBlank_tab blank), visibleText_tail_layout (allBlank_tab blank)]
  have shorter := inside_openEnded_sublist root
  rw [kept, visible_eq, visible_eq, tail_openEnded]
  refine ⟨rfl, shorter.append_right _, ?_⟩
  rw [List.append_left_inj, inside_openEnded_eq_iff]

/-- A text with a break at its end. -/
def mixedParagraph : Node String :=
  .element "p" [] (some "a ")
    [.element "b" [] (some " c") [] (some "\n"),
     .remark .comment "note" (some "d"),
     .element "br" [] none [] (some " e")]
    none

/-- What follows the break is lost. -/
theorem visible_indented_paragraph :
    mixedParagraph.visible = ['a', 'c', 'd', 'e'] ∧
      (mixedParagraph.indented (some (.spaces 2))).visible = ['a', 'c', 'd'] ∧
      ¬∀ inner ∈ mixedParagraph.preorder, inner.Closes := by
  have blank : ∀ tab, Indent.spaces 2 = .text tab → allBlank tab.toList = true := nofun
  obtain ⟨kept, -, lossless⟩ := visible_indented mixedParagraph blank
  have all : mixedParagraph.visible = ['a', 'c', 'd', 'e'] := by decide
  have shown : mixedParagraph.openEnded.visible = ['a', 'c', 'd'] := by decide
  rw [← lossless, kept, all, shown]
  decide

end Node

end VectorScene.Markup
