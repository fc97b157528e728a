import Mathlib.Data.List.TakeWhile
import VectorScene.Text.Blank

/-!
# Blanks and trimmed texts

Trimming removes a run of characters from either end and leaves what is between them.
-/

namespace VectorScene.Text

theorem not_mem_blanks {blanks : List Char} (blank : allBlank blanks = true) {c : Char}
    (visible : isBlank c = false) : c ∉ blanks := by
  intro member
  rw [List.all_eq_true.1 blank c member] at visible
  cases visible

theorem eq_nil_of_allBlank {text : List Char} (blank : allBlank text = true)
    (visible : ∀ c ∈ text, isBlank c = false) : text = [] := by
  rw [List.eq_nil_iff_forall_not_mem]
  intro c member
  exact not_mem_blanks blank (visible c member) member

variable {drop : Char → Bool}

/-- Nothing is removed from a text that holds nothing to be removed. -/
theorem trimBy_eq_self {text : List Char} (kept : ∀ c ∈ text, drop c = false) :
    trimBy drop text = text := by
  have front (cs : List Char) (keptHere : ∀ c ∈ cs, drop c = false) :
      cs.dropWhile drop = cs := by
    cases cs with
    | nil => rfl
    | cons c rest =>
        rw [List.dropWhile_cons_of_neg]
        simp [keptHere c List.mem_cons_self]
  rw [trimBy, front text kept, front text.reverse, List.reverse_reverse]
  intro c member
  exact kept c (List.mem_reverse.1 member)

/-- What is removed stands at the ends of a text. -/
theorem exists_trimBy (drop : Char → Bool) (text : List Char) :
    ∃ left right, (∀ c ∈ left, drop c = true) ∧ (∀ c ∈ right, drop c = true) ∧
      text = left ++ (trimBy drop text ++ right) := by
  have front : text.takeWhile drop ++ text.dropWhile drop = text :=
    List.takeWhile_append_dropWhile
  have back : (text.dropWhile drop).reverse.takeWhile drop ++
      (text.dropWhile drop).reverse.dropWhile drop = (text.dropWhile drop).reverse :=
    List.takeWhile_append_dropWhile
  refine ⟨text.takeWhile drop, ((text.dropWhile drop).reverse.takeWhile drop).reverse, ?_, ?_, ?_⟩
  · intro c member
    exact List.mem_takeWhile_imp member
  · intro c member
    exact List.mem_takeWhile_imp (List.mem_reverse.1 member)
  · rw [trimBy, ← List.reverse_append, back, List.reverse_reverse, front]

/-- Blanks are removed from the ends of a text. -/
theorem exists_trim (text : List Char) :
    ∃ left right, allBlank left = true ∧ allBlank right = true ∧
      text = left ++ (trim text ++ right) := by
  obtain ⟨left, right, blankLeft, blankRight, whole⟩ := exists_trimBy isBlank text
  exact ⟨left, right, List.all_eq_true.2 blankLeft, List.all_eq_true.2 blankRight, whole⟩

end VectorScene.Text
