import VectorScene.Proofs.Markup.Escape
import VectorScene.Proofs.Markup.Name

/-!
# Written tags

The tags of an element are read as they were written: the name, and every
attribute with its value in order.
-/

namespace VectorScene.Markup

/-- A text is split at a character that it holds for the first time. -/
theorem splitAt?_character {mark : Char} {before : List Char} (first : mark ∉ before)
    (rest : List Char) : splitAt? [mark] (before ++ mark :: rest) = some (before, rest) := by
  induction before with
  | nil => simp [splitAt?, after?]
  | cons c before ih =>
      rw [List.mem_cons, not_or] at first
      simp [splitAt?, after?, first.1, ih first.2]

/-- A name without a namespace is written as it is. -/
theorem Labels.write_of_isName {name : String} (isName : IsName name.toList) :
    Labels.write [] name = name.toList := by
  obtain ⟨c, rest, same, start⟩ := isName.eq_cons
  have plain : c ≠ openBrace := ne_of_isNameStart start rfl
  simp [Labels.write, splitName, same, plain]

/-! ## Attributes -/

/-- The pieces that attributes are written as. -/
def attributePieces (attributes : Attributes String) : List (List Char × List Piece) :=
  attributes.map fun (name, value) => (name.toList, value.toList.map valuePiece)

theorem attributePair?_written {pair : String × String} (isName : IsName pair.1.toList)
    (rest : List Char) :
    attributePair? ((writeAttribute [] pair).tail ++ rest) =
      some ((pair.1.toList, pair.2.toList.map valuePiece), rest) := by
  have text : (writeAttribute [] pair).tail ++ rest =
      pair.1.toList ++ '=' :: '"' :: (escapeValue pair.2.toList ++ '"' :: rest) := by
    simp [writeAttribute, Labels.write_of_isName isName]
  have named := isName.append
    (endsName_cons (c := '=') rfl (by decide)
      ('"' :: (escapeValue pair.2.toList ++ '"' :: rest)))
  obtain ⟨noQuote, noBracket⟩ := not_mem_escapeValue pair.2.toList
  have quoted : literal? ('"' :: (escapeValue pair.2.toList ++ '"' :: rest)) =
      some (escapeValue pair.2.toList, rest) := by
    rw [literal?, if_pos (by decide), splitAt?_character noQuote]
  rw [text, attributePair?, named]
  simp [after?, isSpace, quoted, valuePieces?, noBracket, pieces?_escapeValue]

theorem attributes?_ended {text rest : List Char} {tagEnd : TagEnd}
    (ended : tagEnd? (text.dropWhile isSpace) = some (tagEnd, rest)) :
    attributes? text = some ([], tagEnd, rest) := by
  rw [attributes?, ended]

theorem attributes?_pair {text rest : List Char} {pair : List Char × List Piece}
    (notEnded : tagEnd? (text.dropWhile isSpace) = none)
    (spaced : text.head?.any isSpace = true)
    (taken : attributePair? (text.dropWhile isSpace) = some (pair, rest)) :
    attributes? text =
      (attributes? rest).map fun (pairs, tagEnd, rest) => (pair :: pairs, tagEnd, rest) := by
  rw [attributes?, notEnded]
  dsimp only
  rw [if_pos spaced]
  split
  next pair' rest' taken' =>
    rw [taken] at taken'
    simp only [Option.some.injEq, Prod.mk.injEq] at taken'
    rw [taken'.1, taken'.2]
  next missing =>
    rw [taken] at missing
    cases missing

/-- Written attributes are read in order, up to the end of their tag. -/
theorem attributes?_written {attributes : Attributes String}
    (names : ∀ pair ∈ attributes, IsName pair.1.toList) {text rest : List Char} {tagEnd : TagEnd}
    (ended : tagEnd? (text.dropWhile isSpace) = some (tagEnd, rest)) :
    attributes? (attributes.flatMap (writeAttribute []) ++ text) =
      some (attributePieces attributes, tagEnd, rest) := by
  induction attributes with
  | nil => exact attributes?_ended ended
  | cons pair others ih =>
      have isName := names pair List.mem_cons_self
      have inner := ih fun other member => names other (List.mem_cons_of_mem pair member)
      obtain ⟨c, name, same, start⟩ := isName.eq_cons
      have spaced : writeAttribute [] pair = ' ' :: (writeAttribute [] pair).tail := rfl
      have starts : (writeAttribute [] pair).tail =
          c :: (name ++ '=' :: '"' :: escapeValue pair.2.toList ++ ['"']) := by
        simp [writeAttribute, Labels.write_of_isName isName, same]
      have visible : isSpace c = false := by
        have space : c ≠ ' ' := ne_of_isNameStart start rfl
        have tab : c ≠ '\t' := ne_of_isNameStart start rfl
        have lineFeed : c ≠ '\n' := ne_of_isNameStart start rfl
        have return_ : c ≠ '\r' := ne_of_isNameStart start rfl
        simp [isSpace, space, tab, lineFeed, return_]
      have dropped (rest : List Char) :
          ((writeAttribute [] pair ++ rest).dropWhile isSpace) =
            (writeAttribute [] pair).tail ++ rest := by
        rw [spaced, List.tail_cons, starts, List.cons_append, List.dropWhile_cons_of_pos rfl,
          List.cons_append, List.dropWhile_cons_of_neg (by simp [visible])]
      have notEnded (rest : List Char) : tagEnd? ((writeAttribute [] pair).tail ++ rest) = none := by
        have bracket : c ≠ '>' := ne_of_isNameStart start rfl
        have slash : c ≠ '/' := ne_of_isNameStart start rfl
        rw [starts]
        simp [tagEnd?, bracket, slash]
      rw [List.flatMap_cons, List.append_assoc,
        attributes?_pair (by rw [dropped]; exact notEnded _) rfl
          (by rw [dropped]; exact attributePair?_written isName _), inner]
      rfl

/-! ## Tags -/

/-- What follows the name of a written tag does not continue the name. -/
theorem endsName_attributes (attributes : Attributes String) {text : List Char}
    (ends : EndsName text) : EndsName (attributes.flatMap (writeAttribute []) ++ text) := by
  cases attributes with
  | nil => exact ends
  | cons pair others => exact endsName_cons rfl (by decide) _

theorem openTag?_written {tag : String} {attributes : Attributes String}
    (isName : IsName tag.toList) (names : ∀ pair ∈ attributes, IsName pair.1.toList)
    (rest : List Char) :
    openTag? (tag.toList ++ attributes.flatMap (writeAttribute []) ++ '>' :: rest) =
      some ([.openTag tag.toList (attributePieces attributes)], rest) := by
  have ended : tagEnd? (('>' :: rest).dropWhile isSpace) = some (.opened, rest) := rfl
  have ends : EndsName ('>' :: rest) := endsName_cons rfl (by decide) rest
  simp only [List.append_assoc, openTag?, isName.append (endsName_attributes attributes ends),
    Option.bind_some, attributes?_written names ended, Option.map_some]

theorem openTag?_empty {tag : String} {attributes : Attributes String}
    (isName : IsName tag.toList) (names : ∀ pair ∈ attributes, IsName pair.1.toList)
    (rest : List Char) :
    openTag? (tag.toList ++ attributes.flatMap (writeAttribute []) ++ ' ' :: '/' :: '>' :: rest) =
      some ([.openTag tag.toList (attributePieces attributes), .closeTag tag.toList], rest) := by
  have ended : tagEnd? ((' ' :: '/' :: '>' :: rest).dropWhile isSpace) = some (.empty, rest) := rfl
  have ends : EndsName (' ' :: '/' :: '>' :: rest) := endsName_cons rfl (by decide) _
  simp only [List.append_assoc, openTag?, isName.append (endsName_attributes attributes ends),
    Option.bind_some, attributes?_written names ended, Option.map_some]

theorem closeTag?_written {tag : String} (isName : IsName tag.toList) (rest : List Char) :
    closeTag? (tag.toList ++ '>' :: rest) = some ([.closeTag tag.toList], rest) := by
  have ends : EndsName ('>' :: rest) := endsName_cons rfl (by decide) rest
  rw [closeTag?, isName.append ends]
  rfl

/-- An opening tag starts its element with the values of the attributes. -/
theorem events?_openTag (entities : Entities) (depth : Nat) (tag : List Char)
    (attributes : Attributes String) :
    Token.events? entities depth (.openTag tag (attributePieces attributes)) =
      some [.start tag (attributes.map fun (name, value) => (name.toList, value.toList))] := by
  have values : (attributePieces attributes).mapM
      (fun pair => (value? entities depth pair.2).map (pair.1, ·)) =
        some (attributes.map fun (name, value) => (name.toList, value.toList)) := by
    induction attributes with
    | nil => rfl
    | cons pair others ih =>
        rw [attributePieces] at ih ⊢
        rw [List.map_cons, List.mapM_cons, value?_valuePieces, ih]
        rfl
  rw [Token.events?, values]
  rfl

end VectorScene.Markup
