import VectorScene.Markup.Reference

/-!
# Attributes of tags

The part of an opening tag after its name: attributes, each after white space,
and the mark that ends the tag.
-/

namespace VectorScene.Markup

/-- Take an attribute off a text: a name, an equals sign and a quoted value. -/
def attributePair? (text : List Char) : Option ((List Char × List Piece) × List Char) :=
  (name? text).bind fun (name, rest) =>
    (after? ['='] (rest.dropWhile isSpace)).bind fun rest =>
      (literal? (rest.dropWhile isSpace)).bind fun (value, rest) =>
        (valuePieces? value).map fun parts => ((name, parts), rest)

theorem attributePair?_shorter {text rest : List Char} {pair : List Char × List Piece}
    (found : attributePair? text = some (pair, rest)) : rest.length < text.length := by
  unfold attributePair? at found
  obtain ⟨⟨name, afterName⟩, named, found⟩ := Option.bind_eq_some_iff.1 found
  obtain ⟨afterMark, marked, found⟩ := Option.bind_eq_some_iff.1 found
  obtain ⟨⟨value, afterValue⟩, quoted, found⟩ := Option.bind_eq_some_iff.1 found
  obtain ⟨parts, -, same⟩ := Option.map_eq_some_iff.1 found
  have first := name?_shorter named
  have second := after?_length marked
  have third := literal?_shorter quoted
  have blanks := length_dropWhile_le isSpace afterName
  have moreBlanks := length_dropWhile_le isSpace afterMark
  rw [← (Prod.mk.inj same).2]
  omega

/-- The end of an opening tag. -/
inductive TagEnd where
  | opened
  | empty
  deriving DecidableEq

/-- Take the end of an opening tag off a text. -/
def tagEnd? : List Char → Option (TagEnd × List Char)
  | '>' :: rest => some (.opened, rest)
  | '/' :: '>' :: rest => some (.empty, rest)
  | _ => none

/-- Take the attributes of an opening tag and its end off a text.  White space
comes before every attribute. -/
def attributes? (text : List Char) :
    Option (List (List Char × List Piece) × TagEnd × List Char) :=
  match tagEnd? (text.dropWhile isSpace) with
  | some (tagEnd, rest) => some ([], tagEnd, rest)
  | none =>
      if text.head?.any isSpace then
        match _found : attributePair? (text.dropWhile isSpace) with
        | some (pair, rest) =>
            (attributes? rest).map fun (pairs, tagEnd, rest) => (pair :: pairs, tagEnd, rest)
        | none => none
      else none
termination_by text.length
decreasing_by
  have := attributePair?_shorter _found
  have := length_dropWhile_le isSpace text
  omega

theorem tagEnd?_shorter {text rest : List Char} {tagEnd : TagEnd}
    (found : tagEnd? text = some (tagEnd, rest)) : rest.length < text.length := by
  unfold tagEnd? at found
  split at found
  · cases found
    exact Nat.lt_succ_self _
  · cases found
    exact Nat.lt_succ_of_lt (Nat.lt_succ_self _)
  · cases found

theorem attributes?_shorter {text rest : List Char} {pairs : List (List Char × List Piece)}
    {tagEnd : TagEnd} (found : attributes? text = some (pairs, tagEnd, rest)) :
    rest.length < text.length := by
  fun_induction attributes? text generalizing pairs tagEnd rest with
  | case1 text tagEnd' rest' ended =>
      have := tagEnd?_shorter ended
      have := length_dropWhile_le isSpace text
      cases found
      omega
  | case2 text notEnded spaced pair rest' taken ih =>
      obtain ⟨⟨pairs', tagEnd', rest''⟩, inner, same⟩ := Option.map_eq_some_iff.1 found
      simp only [Prod.mk.injEq] at same
      obtain ⟨-, -, rfl⟩ := same
      have := ih inner
      have := attributePair?_shorter taken
      have := length_dropWhile_le isSpace text
      omega
  | case3 => cases found
  | case4 => cases found

end VectorScene.Markup
