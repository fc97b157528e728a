import Mathlib.Data.List.Induction
import VectorScene.Proofs.Markup.Rename

/-!
# Stripping a second time

A stripped name has no namespace left on any of its lines: removing one does not join what is
around it to another one.  So names and trees that are stripped are stripped of nothing.
-/

namespace VectorScene.Markup

/-- A text with a namespace, which opens and closes on one line. -/
def HasNamespace (text : List Char) : Prop :=
  ∃ before inner after, text = before ++ openBrace :: (inner ++ closeBrace :: after) ∧ '\n' ∉ inner

/-! ## Namespaces that close on their line -/

theorem closesOnLine_cons (c : Char) (rest : List Char) :
    closesOnLine (c :: rest) = true ↔
      c ≠ '\n' ∧ (c = closeBrace ∨ closesOnLine rest = true) := by
  by_cases line : c = '\n'
  · rw [closesOnLine, List.takeWhile_cons_of_neg (by simpa using line)]
    exact iff_of_false (by decide) fun closes => closes.1 line
  · rw [closesOnLine, List.takeWhile_cons_of_pos (by simpa using line), List.contains_cons,
      ← closesOnLine, Bool.or_eq_true, beq_iff_eq, eq_comm]
    exact (and_iff_right line).symm

theorem closesOnLine_iff {text : List Char} :
    closesOnLine text = true ↔
      ∃ inner after, text = inner ++ closeBrace :: after ∧ '\n' ∉ inner := by
  induction text with
  | nil =>
      refine iff_of_false (by decide) ?_
      rintro ⟨inner, after, split, -⟩
      exact absurd split.symm (List.append_ne_nil_of_right_ne_nil _ (List.cons_ne_nil _ _))
  | cons c text ih =>
      rw [closesOnLine_cons, ih]
      constructor
      · rintro ⟨line, rfl | ⟨inner, after, rfl, oneLine⟩⟩
        · exact ⟨[], text, rfl, List.not_mem_nil⟩
        · exact ⟨c :: inner, after, rfl, List.not_mem_cons_of_ne_of_not_mem (Ne.symm line) oneLine⟩
      · rintro ⟨inner, after, split, oneLine⟩
        cases inner with
        | nil =>
            obtain ⟨rfl, -⟩ := List.cons_eq_cons.1 split
            exact ⟨by decide, .inl rfl⟩
        | cons d inner =>
            obtain ⟨rfl, rfl⟩ := List.cons_eq_cons.1 split
            rw [List.mem_cons, not_or] at oneLine
            exact ⟨Ne.symm oneLine.1, .inr ⟨inner, after, rfl, oneLine.2⟩⟩

theorem not_hasNamespace_nil : ¬HasNamespace [] := by
  rintro ⟨before, inner, after, split, -⟩
  exact absurd split.symm (List.append_ne_nil_of_right_ne_nil _ (List.cons_ne_nil _ _))

theorem hasNamespace_cons {c : Char} {rest : List Char} :
    HasNamespace (c :: rest) ↔
      c = openBrace ∧ closesOnLine rest = true ∨ HasNamespace rest := by
  rw [closesOnLine_iff]
  constructor
  · rintro ⟨before, inner, after, split, oneLine⟩
    cases before with
    | nil =>
        obtain ⟨rfl, rfl⟩ := List.cons_eq_cons.1 split
        exact .inl ⟨rfl, inner, after, rfl, oneLine⟩
    | cons d before =>
        obtain ⟨-, rfl⟩ := List.cons_eq_cons.1 split
        exact .inr ⟨before, inner, after, rfl, oneLine⟩
  · rintro (⟨rfl, inner, after, rfl, oneLine⟩ | ⟨before, inner, after, rfl, oneLine⟩)
    · exact ⟨[], inner, after, rfl, oneLine⟩
    · exact ⟨c :: before, inner, after, rfl, oneLine⟩

/-! ## Names -/

/-- What is left of a line closes nothing unless the line did.  Inside a namespace, the last
closing brace of the line is removed with it. -/
theorem closesOnLine_stripFrom (text : List Char) :
    (closesOnLine text = false → closesOnLine (stripFrom false text) = false) ∧
      (closesOnLine text = true → closesOnLine (stripFrom true text) = false) := by
  induction text with
  | nil => exact ⟨fun none => none, nofun⟩
  | cons c rest ih =>
      constructor
      · intro never
        rw [stripFrom]
        rw [← Bool.not_eq_true, closesOnLine_cons, not_and_or, not_or, not_not] at never
        rcases never with rfl | ⟨plain, later⟩
        · have kept : ¬(decide ('\n' = openBrace) && closesOnLine rest) = true := by
            rw [decide_eq_false (by decide), Bool.false_and]
            exact Bool.false_ne_true
          rw [if_neg kept, ← Bool.not_eq_true, closesOnLine_cons]
          exact fun closes => closes.1 rfl
        · rw [Bool.not_eq_true] at later
          rw [later, Bool.and_false, if_neg Bool.false_ne_true, ← Bool.not_eq_true,
            closesOnLine_cons, ih.1 later]
          exact fun closes => plain (closes.2.resolve_right Bool.false_ne_true)
      · intro closes
        obtain ⟨-, closes⟩ := (closesOnLine_cons c rest).1 closes
        rw [stripFrom]
        cases later : closesOnLine rest with
        | true =>
            rw [Bool.not_true, Bool.and_false, if_neg Bool.false_ne_true]
            exact ih.2 later
        | false =>
            obtain rfl := closes.resolve_right (later ▸ Bool.false_ne_true)
            rw [Bool.not_false, Bool.and_true, if_pos (decide_eq_true rfl)]
            exact ih.1 later

/-- No namespace is left in a stripped text. -/
theorem not_hasNamespace_stripFrom (text : List Char) :
    ¬HasNamespace (stripFrom false text) ∧
      (closesOnLine text = true → ¬HasNamespace (stripFrom true text)) := by
  induction text with
  | nil => exact ⟨not_hasNamespace_nil, nofun⟩
  | cons c rest ih =>
      constructor
      · rw [stripFrom]
        split
        next opens => exact ih.2 (Bool.and_eq_true_iff.1 opens).2
        next kept =>
          -- A brace that stays is closed by nothing that is left after it.
          rw [hasNamespace_cons]
          rintro (⟨brace, closes⟩ | later)
          · have never : closesOnLine rest = false := by simpa [brace] using kept
            rw [(closesOnLine_stripFrom rest).1 never] at closes
            cases closes
          · exact ih.1 later
      · intro closes
        obtain ⟨-, closes⟩ := (closesOnLine_cons c rest).1 closes
        rw [stripFrom]
        split
        next => exact ih.1
        next goesOn =>
          refine ih.2 ?_
          rcases closes with rfl | later
          · simpa using goesOn
          · exact later

theorem stripFrom_eq_self_of_not_hasNamespace {text : List Char} (free : ¬HasNamespace text) :
    stripFrom false text = text := by
  induction text with
  | nil => rfl
  | cons c rest ih =>
      rw [hasNamespace_cons, not_or] at free
      have kept : ¬(decide (c = openBrace) && closesOnLine rest) = true := by
        rw [Bool.and_eq_true, decide_eq_true_iff]
        exact free.1
      rw [stripFrom, if_neg kept, ih free.2]

theorem not_hasNamespace_stripName (name : String) : ¬HasNamespace (stripName name).toList := by
  rw [stripName, String.toList_ofList]
  exact (not_hasNamespace_stripFrom name.toList).1

/-- A name is stripped of nothing exactly if it has no namespace. -/
theorem stripName_eq_self_iff {name : String} :
    stripName name = name ↔ ¬HasNamespace name.toList := by
  constructor
  · intro same
    rw [← same]
    exact not_hasNamespace_stripName name
  · intro free
    rw [stripName, stripFrom_eq_self_of_not_hasNamespace free, String.ofList_toList]

theorem stripName_stripName (name : String) : stripName (stripName name) = stripName name :=
  stripName_eq_self_iff.2 (not_hasNamespace_stripName name)

-- Nested braces are removed as one, and a line break keeps braces apart.
example : stripName "\x7ba\n\x7bb\x7bc\x7dd\x7de\x7d\n\x7d" = "\x7ba\n\n\x7d" := by decide

/-! ## Attributes -/

namespace Attributes

variable {α : Type} {attributes pairs : Attributes α}

theorem names_set (name : String) (value : α) :
    (attributes.set name value).names =
      if name ∈ attributes.names then attributes.names else attributes.names ++ [name] := by
  induction attributes with
  | nil => rfl
  | cons pair rest ih =>
      rw [set]
      split
      next same =>
        subst same
        exact (if_pos List.mem_cons_self).symm
      next other =>
        have inside : name ∈ names (pair :: rest) ↔ name ∈ names rest := by
          rw [names, List.map_cons, List.mem_cons]
          exact or_iff_right (Ne.symm other)
        rw [names, List.map_cons, ← names, ih, if_congr inside rfl rfl]
        split <;> rfl

/-- Attributes that are given have their names in the order of the first occurrence. -/
theorem names_ofList (pairs : Attributes α) : (ofList pairs).names = pairs.names.eraseDups := by
  induction pairs using List.reverseRecOn with
  | nil => rfl
  | append_singleton pairs pair ih =>
      have step : ofList (pairs ++ [pair]) = (ofList pairs).set pair.1 pair.2 :=
        List.foldl_concat ..
      have last : names (pairs ++ [pair]) = names pairs ++ [pair.1] := List.map_append
      rw [step, names_set, ih, last, List.eraseDups_append]
      by_cases again : pair.1 ∈ names pairs
      · simp [List.removeAll, again]
      · simp [List.removeAll, List.eraseDups_cons, again]

end Attributes

namespace Node

variable {α : Type}

/-! ## Trees -/

theorem names_stripAttributes (attributes : Attributes α) :
    (stripAttributes attributes).names = (attributes.names.map stripName).eraseDups := by
  rw [stripAttributes, Attributes.names_ofList, Attributes.names, List.map_map, Attributes.names,
    List.map_map]
  rfl

theorem names_attributes_strip (node : Node α) :
    node.strip.attributes.names = (node.attributes.names.map stripName).eraseDups := by
  rw [attributes_strip, names_stripAttributes]

theorem stripAttributes_stripAttributes (attributes : Attributes α) :
    stripAttributes (stripAttributes attributes) = stripAttributes attributes := by
  refine stripAttributes_eq_self (fun pair member => ?_) Attributes.nodup_ofList
  obtain ⟨old, -, rfl⟩ := List.mem_map.1 (Attributes.mem_ofList member)
  exact stripName_stripName old.1

mutual

theorem strip_strip (node : Node α) : node.strip.strip = node.strip := by
  match node with
  | .element tag attributes text children tail =>
      rw [strip, strip, stripName_stripName, stripAttributes_stripAttributes,
        stripAll_stripAll children]
  | .remark kind content tail => rfl

theorem stripAll_stripAll (nodes : List (Node α)) :
    stripAll (stripAll nodes) = stripAll nodes := by
  match nodes with
  | [] => rfl
  | node :: rest => rw [stripAll, stripAll, strip_strip node, stripAll_stripAll rest]

end

/-- No namespace is left in the names of a stripped node. -/
theorem not_hasNamespace_strip (node : Node α) :
    (∀ tag ∈ node.strip.tag?, ¬HasNamespace tag.toList) ∧
      ∀ name ∈ node.strip.attributes.names, ¬HasNamespace name.toList := by
  constructor
  · rw [tag?_strip]
    intro tag tagged
    obtain ⟨old, -, rfl⟩ := Option.map_eq_some_iff.1 tagged
    exact not_hasNamespace_stripName old
  · rw [names_attributes_strip]
    intro name member
    obtain ⟨old, -, rfl⟩ := List.mem_map.1 (List.mem_eraseDups.1 member)
    exact not_hasNamespace_stripName old

end Node

end VectorScene.Markup
