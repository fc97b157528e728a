import VectorScene.Proofs.Markup.Plain
import VectorScene.Proofs.Markup.Strip

/-!
# Renamed trees

The tags and the attributes of a tree can be changed node by node.  A name in a namespace that
spans lines keeps the brace before it when it is stripped.
-/

namespace VectorScene.Markup

/-! ## Namespaces that span lines -/

theorem closesOnLine_lines {uri : List Char} (lines : '\n' ∈ uri) (open_ : closeBrace ∉ uri)
    (inner : List Char) : closesOnLine (uri ++ inner) = false := by
  induction uri with
  | nil => cases lines
  | cons c uri ih =>
      rw [List.mem_cons, not_or] at open_
      by_cases same : c = '\n'
      · rw [closesOnLine, List.cons_append, List.takeWhile_cons_of_neg (by simpa using same)]
        rfl
      · have later : '\n' ∈ uri := (List.mem_cons.1 lines).resolve_left (Ne.symm same)
        have rest := ih later open_.2
        rw [closesOnLine] at rest
        rw [closesOnLine, List.cons_append, List.takeWhile_cons_of_pos (by simpa using same),
          List.contains_cons, rest, Bool.or_false]
        exact beq_eq_false_iff_ne.2 open_.1

/-- A name in a namespace that spans lines keeps its first brace. -/
theorem exists_stripName_inNamespace {uri : List Char} (lines : '\n' ∈ uri)
    (open_ : closeBrace ∉ uri) (name : String) :
    ∃ rest, (stripName (inNamespace uri name)).toList = openBrace :: rest := by
  rw [stripName, inNamespace, String.toList_ofList, String.toList_ofList, List.cons_append,
    stripFrom, closesOnLine_lines lines open_, Bool.and_false, if_neg Bool.false_ne_true]
  exact ⟨_, rfl⟩

/-- A name without braces in a namespace is stripped of it unless the namespace spans lines. -/
theorem stripName_inNamespace_iff {uri : List Char} (open_ : closeBrace ∉ uri) {name : String}
    (noBraces : NoBraces name.toList) : stripName (inNamespace uri name) = name ↔ '\n' ∉ uri := by
  refine ⟨fun same lines => ?_, fun oneLine => stripName_inNamespace oneLine open_ noBraces⟩
  obtain ⟨rest, kept⟩ := exists_stripName_inNamespace lines open_ name
  rw [same] at kept
  have opens := noBraces.opens
  rw [kept] at opens
  exact opens List.mem_cons_self

/-! ## Trees -/

namespace Node

variable {α : Type} {tags : String → String} {change : Attributes α → Attributes α}

mutual

/-- A tree whose tags and attributes are changed. -/
def rename (tags : String → String) (change : Attributes α → Attributes α) : Node α → Node α
  | .element tag attributes text children tail =>
      .element (tags tag) (change attributes) text (renameAll tags change children) tail
  | .remark kind content tail => .remark kind content tail

/-- A list of trees whose tags and attributes are changed. -/
def renameAll (tags : String → String) (change : Attributes α → Attributes α) :
    List (Node α) → List (Node α)
  | [] => []
  | node :: rest => rename tags change node :: renameAll tags change rest

end

@[simp] theorem tag?_rename (node : Node α) : (node.rename tags change).tag? = node.tag?.map tags := by
  cases node <;> rfl

/-- The attributes of a remark, which are none, stay none. -/
theorem attributes_rename (none : change [] = []) (node : Node α) :
    (node.rename tags change).attributes = change node.attributes := by
  cases node with
  | element tag attributes text children tail => rfl
  | remark kind content tail => exact none.symm

theorem attributes_strip (node : Node α) : node.strip.attributes = stripAttributes node.attributes := by
  cases node <;> rfl

mutual

/-- The nodes of a renamed tree are its nodes, renamed. -/
theorem preorder_rename (node : Node α) :
    (node.rename tags change).preorder = node.preorder.map (rename tags change) := by
  match node with
  | .element tag attributes text children tail =>
      rw [rename, preorder, preorder, preorderAll_rename children, List.map_cons, rename]
  | .remark kind content tail => rfl

theorem preorderAll_rename (nodes : List (Node α)) :
    preorderAll (renameAll tags change nodes) = (preorderAll nodes).map (rename tags change) := by
  match nodes with
  | [] => rfl
  | node :: rest =>
      rw [renameAll, preorderAll, preorderAll, preorder_rename node, preorderAll_rename rest,
        List.map_append]

end

end Node

end VectorScene.Markup
