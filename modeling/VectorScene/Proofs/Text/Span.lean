/-!
# Leading runs of characters

The characters that a text starts with and that satisfy a test do not depend on
what follows a character that fails it.
-/

namespace VectorScene.Text

variable {keep : Char → Bool} {rest : List Char}

theorem takeWhile_append_of_stop (stops : ∀ c ∈ rest.head?, keep c = false)
    (text : List Char) : (text ++ rest).takeWhile keep = text.takeWhile keep := by
  induction text with
  | nil =>
      cases rest with
      | nil => rfl
      | cons c rest => simp [stops c rfl]
  | cons c text ih => simp only [List.cons_append, List.takeWhile_cons, ih]

theorem dropWhile_append_of_stop (stops : ∀ c ∈ rest.head?, keep c = false)
    (text : List Char) : (text ++ rest).dropWhile keep = text.dropWhile keep ++ rest := by
  induction text with
  | nil =>
      cases rest with
      | nil => rfl
      | cons c rest => simp [stops c rfl]
  | cons c text ih =>
      simp only [List.cons_append, List.dropWhile_cons, ih]
      split <;> rfl

theorem takeWhile_of_all {text : List Char} (all : ∀ c ∈ text, keep c = true) :
    text.takeWhile keep = text := by
  have taken : (text ++ []).takeWhile keep = text ++ [].takeWhile keep :=
    List.takeWhile_append_of_pos all
  rwa [List.append_nil, List.takeWhile_nil, List.append_nil] at taken

theorem dropWhile_of_all {text : List Char} (all : ∀ c ∈ text, keep c = true) :
    text.dropWhile keep = [] := by
  have dropped : (text ++ []).dropWhile keep = [].dropWhile keep :=
    List.dropWhile_append_of_pos all
  rwa [List.append_nil, List.dropWhile_nil] at dropped

/-- Texts that agree and hold a mark agree before its first occurrence and after it. -/
theorem eq_of_append_mark_eq {mark : Char} {first second after other : List Char}
    (unmarked : mark ∉ first) (unmarkedSecond : mark ∉ second)
    (same : first ++ mark :: after = second ++ mark :: other) : first = second ∧ after = other := by
  have stops (rest : List Char) : ∀ c ∈ (mark :: rest).head?, (c != mark) = false := by
    rintro _ ⟨⟩
    exact bne_self_eq_false mark
  have taken (front rest : List Char) (unmarked : mark ∉ front) :
      (front ++ mark :: rest).takeWhile (· != mark) = front := by
    rw [takeWhile_append_of_stop (stops rest), takeWhile_of_all]
    intro c member
    exact bne_iff_ne.2 fun equal => unmarked (equal ▸ member)
  have front : first = second := by
    rw [← taken first after unmarked, same, taken second other unmarkedSecond]
  subst front
  exact ⟨rfl, (List.cons.inj (List.append_cancel_left same)).2⟩

end VectorScene.Text
