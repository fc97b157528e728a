import VectorScene.Markup.Character

/-!
# Scanners

A scanner takes what it reads off the front of a text and returns it with the
rest, or fails.  What it takes is never empty, so that reading ends.
-/

namespace VectorScene.Markup

/-! ## Marks -/

/-- The text after a mark that comes first. -/
def after? : (mark text : List Char) → Option (List Char)
  | [], text => some text
  | _ :: _, [] => none
  | m :: mark, c :: text => if m = c then after? mark text else none

/-- The text before the first occurrence of a mark and the text after it. -/
def splitAt? (mark : List Char) : List Char → Option (List Char × List Char)
  | [] => none
  | c :: text =>
      match after? mark (c :: text) with
      | some rest => some ([], rest)
      | none => (splitAt? mark text).map fun (before, rest) => (c :: before, rest)

theorem after?_length {mark text rest : List Char} (found : after? mark text = some rest) :
    rest.length + mark.length = text.length := by
  induction mark generalizing text with
  | nil => simp_all [after?]
  | cons m mark ih =>
      cases text with
      | nil => simp [after?] at found
      | cons c text =>
          simp only [after?] at found
          split at found
          · have := ih found
            simp only [List.length_cons]
            omega
          · cases found

theorem splitAt?_shorter {mark text before rest : List Char}
    (found : splitAt? mark text = some (before, rest)) : rest.length ≤ text.length := by
  induction text generalizing before rest with
  | nil => simp [splitAt?] at found
  | cons c text ih =>
      simp only [splitAt?] at found
      split at found
      next rest' marked =>
        have := after?_length marked
        simp only [Option.some.injEq, Prod.mk.injEq] at found
        obtain ⟨-, rfl⟩ := found
        simp only [List.length_cons] at this ⊢
        omega
      next =>
        simp only [Option.map_eq_some_iff] at found
        obtain ⟨⟨before', rest'⟩, inner, same⟩ := found
        simp only [Prod.mk.injEq] at same
        obtain ⟨-, rfl⟩ := same
        have := ih inner
        simp only [List.length_cons]
        omega

/-! ## Names -/

/-- Take a name without a colon off a text. -/
def plainName? : List Char → Option (List Char × List Char)
  | c :: rest =>
      if isNameStart c then some (c :: rest.takeWhile isNameChar, rest.dropWhile isNameChar)
      else none
  | [] => none

/-- Take a name off a text: a plain name, or two with a colon between them. -/
def name? (text : List Char) : Option (List Char × List Char) :=
  (plainName? text).bind fun
    | (label, ':' :: rest) =>
        (plainName? rest).map fun (inner, rest) => (label ++ ':' :: inner, rest)
    | found => some found

theorem length_dropWhile_le {α : Type} (keep : α → Bool) (items : List α) :
    (items.dropWhile keep).length ≤ items.length :=
  (List.dropWhile_suffix keep).length_le

theorem plainName?_shorter {text name rest : List Char}
    (found : plainName? text = some (name, rest)) : rest.length < text.length := by
  unfold plainName? at found
  split at found
  · split at found
    · simp only [Option.some.injEq, Prod.mk.injEq] at found
      obtain ⟨-, rfl⟩ := found
      exact Nat.lt_succ_of_le (length_dropWhile_le ..)
    · cases found
  · cases found

theorem name?_shorter {text name rest : List Char}
    (found : name? text = some (name, rest)) : rest.length < text.length := by
  unfold name? at found
  obtain ⟨⟨label, afterLabel⟩, first, second⟩ := Option.bind_eq_some_iff.1 found
  have shorter := plainName?_shorter first
  split at second
  next label' rest' same =>
    simp only [Prod.mk.injEq] at same
    obtain ⟨⟨inner, afterInner⟩, third, same'⟩ := Option.map_eq_some_iff.1 second
    simp only [Prod.mk.injEq] at same'
    have := plainName?_shorter third
    rw [same.2] at shorter
    rw [← same'.2]
    simp only [List.length_cons] at shorter
    omega
  next =>
    simp only [Option.some.injEq, Prod.mk.injEq] at second
    rw [← second.2]
    exact shorter

end VectorScene.Markup
