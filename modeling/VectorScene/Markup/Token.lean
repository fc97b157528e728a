import VectorScene.Markup.Tag

/-!
# Tokens of markup

The content of a document is a list of tokens: tags, characters and references.
Comments and instructions are no tokens.
-/

namespace VectorScene.Markup

/-- A token of content.  The tag of an empty element stands for two tokens. -/
inductive Token where
  | piece (part : Piece)
  | verbatim (text : List Char)
  | openTag (name : List Char) (attributes : List (List Char × List Piece))
  | closeTag (name : List Char)
  deriving DecidableEq

/-- Take an opening tag off a text that follows an opening angle bracket. -/
def openTag? (text : List Char) : Option (List Token × List Char) :=
  (name? text).bind fun (name, rest) =>
    (attributes? rest).map fun
      | (pairs, .opened, rest) => ([.openTag name pairs], rest)
      | (pairs, .empty, rest) => ([.openTag name pairs, .closeTag name], rest)

/-- Take a closing tag off a text that follows an opening angle bracket and a
slash. -/
def closeTag? (text : List Char) : Option (List Token × List Char) :=
  (name? text).bind fun (name, rest) =>
    (after? ['>'] (rest.dropWhile isSpace)).map fun rest => ([.closeTag name], rest)

/-- The text after a comment that comes first.  A comment holds no two hyphens in a
row. -/
def afterComment? (text : List Char) : Option (List Char) :=
  (after? "<!--".toList text).bind fun rest =>
    (splitAt? ['-', '-'] rest).bind fun (_, rest) => after? ['>'] rest

/-- The text after an instruction that comes first.  Its target is a plain name
other than `xml` in any case. -/
def afterInstruction? (text : List Char) : Option (List Char) :=
  (after? ['<', '?'] text).bind fun rest =>
    (plainName? rest).bind fun (target, rest) =>
      if target.map Char.toLower = ['x', 'm', 'l'] then none
      else (after? ['?', '>'] rest).or
        (if rest.head?.any isSpace then (splitAt? ['?', '>'] rest).map Prod.snd else none)

/-- The text after a comment or an instruction that comes first. -/
def afterRemark? (text : List Char) : Option (List Char) :=
  (afterComment? text).or (afterInstruction? text)

/-- Take a section of verbatim text off a text. -/
def verbatim? (text : List Char) : Option (List Token × List Char) :=
  (after? "<![CDATA[".toList text).bind fun rest =>
    (splitAt? "]]>".toList rest).map fun (content, rest) => ([.verbatim content], rest)

/-- Take the next token off a text, or a comment or an instruction, which are no
tokens.  The end mark of a verbatim section must not stand alone. -/
def step? (text : List Char) : Option (List Token × List Char) :=
  match text with
  | [] => none
  | c :: rest =>
      if c = '<' then
        match rest with
        | '/' :: rest => closeTag? rest
        | '!' :: _ => ((afterComment? text).map ([], ·)).or (verbatim? text)
        | '?' :: _ => (afterInstruction? text).map ([], ·)
        | _ => openTag? rest
      else if c = '&' then (reference? rest).map fun (part, rest) => ([.piece part], rest)
      else if (after? "]]>".toList text).isSome then none
      else some ([.piece (.character c)], rest)

theorem openTag?_shorter {text rest : List Char} {tokens : List Token}
    (found : openTag? text = some (tokens, rest)) : rest.length < text.length := by
  unfold openTag? at found
  obtain ⟨⟨name, afterName⟩, named, found⟩ := Option.bind_eq_some_iff.1 found
  obtain ⟨⟨pairs, tagEnd, afterEnd⟩, ended, same⟩ := Option.map_eq_some_iff.1 found
  have first := name?_shorter named
  have second := attributes?_shorter ended
  have final : afterEnd = rest := by
    cases tagEnd <;> exact (Prod.mk.inj same).2
  subst final
  omega

theorem closeTag?_shorter {text rest : List Char} {tokens : List Token}
    (found : closeTag? text = some (tokens, rest)) : rest.length < text.length := by
  unfold closeTag? at found
  obtain ⟨⟨name, afterName⟩, named, found⟩ := Option.bind_eq_some_iff.1 found
  obtain ⟨afterMark, marked, same⟩ := Option.map_eq_some_iff.1 found
  have first := name?_shorter named
  have second := after?_length marked
  have blanks := length_dropWhile_le isSpace afterName
  rw [← (Prod.mk.inj same).2]
  omega

theorem afterComment?_shorter {text rest : List Char}
    (found : afterComment? text = some rest) : rest.length < text.length := by
  unfold afterComment? at found
  obtain ⟨opened, marked, found⟩ := Option.bind_eq_some_iff.1 found
  obtain ⟨⟨content, closed⟩, split, found⟩ := Option.bind_eq_some_iff.1 found
  have first := after?_length marked
  have second := splitAt?_shorter split
  have third := after?_length found
  simp only [List.length_cons, List.length_nil] at third
  have positive : 0 < "<!--".toList.length := by decide
  omega

theorem afterInstruction?_shorter {text rest : List Char}
    (found : afterInstruction? text = some rest) : rest.length < text.length := by
  unfold afterInstruction? at found
  obtain ⟨opened, marked, found⟩ := Option.bind_eq_some_iff.1 found
  obtain ⟨⟨target, afterTarget⟩, named, found⟩ := Option.bind_eq_some_iff.1 found
  have first := after?_length marked
  have second := plainName?_shorter named
  have third : rest.length ≤ afterTarget.length := by
    dsimp only at found
    split at found
    · cases found
    · rcases Option.or_eq_some_iff.1 found with ended | ⟨-, spaced⟩
      · have := after?_length ended
        omega
      · split at spaced
        · obtain ⟨⟨content, rest'⟩, split, rfl⟩ := Option.map_eq_some_iff.1 spaced
          exact splitAt?_shorter split
        · cases spaced
  simp only [List.length_cons, List.length_nil] at first
  omega

theorem afterRemark?_shorter {text rest : List Char}
    (found : afterRemark? text = some rest) : rest.length < text.length := by
  rcases Option.or_eq_some_iff.1 found with comment | ⟨-, instruction⟩
  · exact afterComment?_shorter comment
  · exact afterInstruction?_shorter instruction

theorem verbatim?_shorter {text rest : List Char} {tokens : List Token}
    (found : verbatim? text = some (tokens, rest)) : rest.length < text.length := by
  unfold verbatim? at found
  obtain ⟨opened, marked, found⟩ := Option.bind_eq_some_iff.1 found
  obtain ⟨⟨content, closed⟩, split, same⟩ := Option.map_eq_some_iff.1 found
  have first := after?_length marked
  have second := splitAt?_shorter split
  rw [← (Prod.mk.inj same).2]
  have positive : 0 < "<![CDATA[".toList.length := by decide
  omega

theorem step?_shorter {text rest : List Char} {tokens : List Token}
    (found : step? text = some (tokens, rest)) : rest.length < text.length := by
  unfold step? at found
  split at found
  · cases found
  · split at found
    · split at found
      · have := closeTag?_shorter found
        simp only [List.length_cons]
        omega
      · rcases Option.or_eq_some_iff.1 found with comment | ⟨-, section_⟩
        · obtain ⟨rest', taken, same⟩ := Option.map_eq_some_iff.1 comment
          rw [← (Prod.mk.inj same).2]
          exact afterComment?_shorter taken
        · exact verbatim?_shorter section_
      · obtain ⟨rest', taken, same⟩ := Option.map_eq_some_iff.1 found
        rw [← (Prod.mk.inj same).2]
        exact afterInstruction?_shorter taken
      · have := openTag?_shorter found
        simp only [List.length_cons]
        omega
    · split at found
      · obtain ⟨⟨part, rest'⟩, taken, same⟩ := Option.map_eq_some_iff.1 found
        have := reference?_shorter taken
        rw [← (Prod.mk.inj same).2]
        simp only [List.length_cons]
        omega
      · split at found
        · cases found
        · cases found
          simp

/-- The tokens of a text. -/
def tokens? (text : List Char) : Option (List Token) :=
  if text.isEmpty then some []
  else
    match _found : step? text with
    | some (tokens, rest) => (tokens? rest).map (tokens ++ ·)
    | none => none
termination_by text.length
decreasing_by exact step?_shorter _found

end VectorScene.Markup
