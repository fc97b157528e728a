import VectorScene.Markup.Layout

/-!
# Layout twice

Laying out a tree a second time changes nothing.  Whatever the indentation is, a layout
touches only the tails below the root and the texts before children.
-/

namespace VectorScene.Markup

/-- A text is filled once. -/
@[simp] theorem fillBlank_fillBlank (text : Option String) (filling : String) :
    fillBlank (fillBlank text filling) filling = fillBlank text filling := by
  by_cases blank : isBlankText text = true
  · simp [fillBlank, blank]
  · simp [fillBlank, blank]

/-- Filling a text or leaving it alone makes no further change the second time. -/
theorem fillUnless_fillUnless (kept : Prop) [Decidable kept] (text : Option String)
    (filling : String) :
    (if kept then if kept then text else fillBlank text filling
      else fillBlank (if kept then text else fillBlank text filling) filling) =
        if kept then text else fillBlank text filling := by
  by_cases holds : kept
  · simp [holds]
  · simp [holds]

namespace Node

variable {α : Type}

mutual

/-- A tree without its tails and without the texts before children. -/
def unspaced : Node α → Node α
  | .element tag attributes text children _ =>
      .element tag attributes (if children.isEmpty then text else none) (unspacedAll children) none
  | .remark kind content _ => .remark kind content none

/-- A list of trees without their tails and without the texts before children. -/
def unspacedAll : List (Node α) → List (Node α)
  | [] => []
  | node :: rest => unspaced node :: unspacedAll rest

end

/-! ## Lists of children -/

@[simp] theorem withTail_withTail (node : Node α) (first second : Option String) :
    (node.withTail first).withTail second = node.withTail second := by
  cases node <;> rfl

@[simp] theorem tail_withTail (node : Node α) (tail : Option String) :
    (node.withTail tail).tail = tail := by
  cases node <;> rfl

@[simp] theorem unspaced_withTail (node : Node α) (tail : Option String) :
    (node.withTail tail).unspaced = node.unspaced := by
  cases node <;> rfl

@[simp] theorem unspacedAll_eq_map (nodes : List (Node α)) :
    unspacedAll nodes = nodes.map unspaced := by
  induction nodes with
  | nil => rfl
  | cons node rest ih => simp [unspacedAll, ih]

@[simp] theorem layoutAll_eq_map (tab : List Char) (level : Nat) (nodes : List (Node α)) :
    layoutAll tab level nodes = nodes.map (layout tab level) := by
  induction nodes with
  | nil => rfl
  | cons node rest ih => simp [layoutAll, ih]

@[simp] theorem closeLast_concat (tail : String) (front : List (Node α)) (last : Node α) :
    closeLast tail (front ++ [last]) = front ++ [last.withTail (some tail)] := by
  induction front with
  | nil => rfl
  | cons node front ih =>
      cases front with
      | nil => rfl
      | cons next front =>
          simp only [List.cons_append, closeLast] at ih ⊢
          rw [ih]

/-! ## One layout -/

section

variable (tab : List Char) (level : Nat)

theorem tail_layout (node : Node α) :
    (layout tab level node).tail =
      if level = 0 then node.tail else fillBlank node.tail (lineBreak tab level) := by
  cases node <;> rfl

/-- The tail of a node has no effect on the rest of its layout. -/
theorem layout_withTail (node : Node α) (tail : Option String) :
    layout tab level (node.withTail tail) = (layout tab level node).withTail
      (if level = 0 then tail else fillBlank tail (lineBreak tab level)) := by
  cases node <;> rfl

/-- A last child that is closed again may have any tail. -/
theorem closeLast_layoutAll_closeLast (tail : String) (nodes : List (Node α)) :
    closeLast tail (layoutAll tab level (closeLast tail nodes)) =
      closeLast tail (layoutAll tab level nodes) := by
  rcases nodes.eq_nil_or_concat with rfl | ⟨front, last, rfl⟩
  · rfl
  · simp [layout_withTail]

theorem isEmpty_closeLast_layoutAll (tail : String) (nodes : List (Node α)) :
    (closeLast tail (layoutAll tab level nodes)).isEmpty = nodes.isEmpty := by
  match nodes with
  | [] => rfl
  | [_] => rfl
  | _ :: _ :: _ => rfl

end

mutual

/-- Laying out a tree again changes nothing. -/
theorem layout_layout (tab : List Char) (level : Nat) (node : Node α) :
    layout tab level (layout tab level node) = layout tab level node := by
  match node with
  | .element tag attributes text children tail =>
      have inner := layoutAll_layoutAll tab (level + 1) children
      simp only [layout, closeLast_layoutAll_closeLast, inner, isEmpty_closeLast_layoutAll,
        fillUnless_fillUnless]
  | .remark kind content tail => simp only [layout, fillUnless_fillUnless]

theorem layoutAll_layoutAll (tab : List Char) (level : Nat) (nodes : List (Node α)) :
    layoutAll tab level (layoutAll tab level nodes) = layoutAll tab level nodes := by
  match nodes with
  | [] => rfl
  | node :: rest =>
      rw [layoutAll, layoutAll, layout_layout tab level node, layoutAll_layoutAll tab level rest]

end

theorem unspacedAll_closeLast (tail : String) (nodes : List (Node α)) :
    unspacedAll (closeLast tail nodes) = unspacedAll nodes := by
  rcases nodes.eq_nil_or_concat with rfl | ⟨front, last, rfl⟩
  · rfl
  · simp

mutual

theorem unspaced_layout (tab : List Char) (level : Nat) (node : Node α) :
    (layout tab level node).unspaced = node.unspaced := by
  match node with
  | .element tag attributes text children tail =>
      have inner := unspacedAll_layoutAll tab (level + 1) children
      rw [layout, unspaced, unspaced, unspacedAll_closeLast, inner, isEmpty_closeLast_layoutAll]
      congr 1
      split <;> rfl
  | .remark kind content tail => rfl

theorem unspacedAll_layoutAll (tab : List Char) (level : Nat) (nodes : List (Node α)) :
    unspacedAll (layoutAll tab level nodes) = unspacedAll nodes := by
  match nodes with
  | [] => rfl
  | node :: rest =>
      rw [layoutAll, unspacedAll, unspacedAll, unspaced_layout tab level node,
        unspacedAll_layoutAll tab level rest]

end

/-- A layout changes nothing when it is made again, from any level and with any tab.  It keeps
all tags, attributes and comments, the children in order and the texts of nodes without
children.  From the root on it keeps the tail of the root as well. -/
theorem layout_idempotent (tab : List Char) (level : Nat) (node : Node α) :
    layout tab level (layout tab level node) = layout tab level node ∧
      (layout tab level node).unspaced = node.unspaced ∧
      (layout tab 0 node).tail = node.tail := by
  refine ⟨layout_layout tab level node, unspaced_layout tab level node, ?_⟩
  rw [tail_layout, if_pos rfl]

/-- An indentation that is no white space is not added a second time either. -/
example :
    let paragraph : Node String := .element "p" [] none
      [.element "b" [] (some " ") [] (some "x"), .remark .comment "note" none] (some " ")
    layout ['-'] 0 paragraph = .element "p" [] (some "\n-")
      [.element "b" [] (some " ") [] (some "x"), .remark .comment "note" (some "\n")] (some " ") ∧
      layout ['-'] 0 (layout ['-'] 0 paragraph) = layout ['-'] 0 paragraph := by
  decide

end Node

end VectorScene.Markup
