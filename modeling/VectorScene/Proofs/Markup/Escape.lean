import Mathlib.Tactic.SplitIfs
import VectorScene.Markup.Event
import VectorScene.Markup.Writer

/-!
# Escapes

Every character of a text or an attribute value is written as one piece of
markup.  Reading the pieces gives the character back, white space in attribute
values included.
-/

namespace VectorScene.Markup

/-- The piece that a character of a text is written as. -/
def textPiece (c : Char) : Piece :=
  if c = '&' then .entity ['a', 'm', 'p']
  else if c = '<' then .entity ['l', 't']
  else if c = '>' then .entity ['g', 't']
  else .character c

/-- The piece that a character of an attribute value is written as. -/
def valuePiece (c : Char) : Piece :=
  if c = '"' then .entity ['q', 'u', 'o', 't']
  else if c = '\r' ∨ c = '\n' ∨ c = '\t' then .code c
  else textPiece c

/-! ## References of escapes -/

theorem reference?_amp (rest : List Char) :
    reference? ('a' :: 'm' :: 'p' :: ';' :: rest) = some (.entity ['a', 'm', 'p'], rest) := rfl

theorem reference?_lt (rest : List Char) :
    reference? ('l' :: 't' :: ';' :: rest) = some (.entity ['l', 't'], rest) := rfl

theorem reference?_gt (rest : List Char) :
    reference? ('g' :: 't' :: ';' :: rest) = some (.entity ['g', 't'], rest) := rfl

theorem reference?_quot (rest : List Char) :
    reference? ('q' :: 'u' :: 'o' :: 't' :: ';' :: rest) =
      some (.entity ['q', 'u', 'o', 't'], rest) := rfl

theorem reference?_cr (rest : List Char) :
    reference? ('#' :: '1' :: '3' :: ';' :: rest) = some (.code '\r', rest) := rfl

theorem reference?_lf (rest : List Char) :
    reference? ('#' :: '1' :: '0' :: ';' :: rest) = some (.code '\n', rest) := rfl

theorem reference?_tab (rest : List Char) :
    reference? ('#' :: '0' :: '9' :: ';' :: rest) = some (.code '\t', rest) := rfl

/-! ## Attribute values -/

theorem pieces?_reference {text rest : List Char} {part : Piece}
    (found : reference? text = some (part, rest)) :
    pieces? ('&' :: text) = (pieces? rest).map (part :: ·) := by
  rw [pieces?]
  split
  next part' rest' found' =>
    rw [found] at found'
    simp only [Option.some.injEq, Prod.mk.injEq] at found'
    rw [found'.1, found'.2]
  next missing =>
    rw [found] at missing
    cases missing

theorem pieces?_character {c : Char} (plain : c ≠ '&') (rest : List Char) :
    pieces? (c :: rest) = (pieces? rest).map (.character c :: ·) := by
  rw [pieces?]
  exact plain

/-- A written character of a value is read as one piece. -/
theorem pieces?_escapeValueChar (c : Char) (rest : List Char) :
    pieces? (escapeValueChar c ++ rest) = (pieces? rest).map (valuePiece c :: ·) := by
  by_cases quote : c = '"'
  · subst quote
    exact pieces?_reference (reference?_quot rest)
  by_cases cr : c = '\r'
  · subst cr
    exact pieces?_reference (reference?_cr rest)
  by_cases lf : c = '\n'
  · subst lf
    exact pieces?_reference (reference?_lf rest)
  by_cases tab : c = '\t'
  · subst tab
    exact pieces?_reference (reference?_tab rest)
  by_cases amp : c = '&'
  · subst amp
    exact pieces?_reference (reference?_amp rest)
  by_cases lt : c = '<'
  · subst lt
    exact pieces?_reference (reference?_lt rest)
  by_cases gt : c = '>'
  · subst gt
    exact pieces?_reference (reference?_gt rest)
  simp [escapeValueChar, escapeTextChar, valuePiece, textPiece, quote, cr, lf, tab, amp, lt, gt,
    pieces?_character amp]

/-- A written value is read as the pieces of its characters. -/
theorem pieces?_escapeValue (value : List Char) :
    pieces? (escapeValue value) = some (value.map valuePiece) := by
  induction value with
  | nil => rw [escapeValue, List.flatMap_nil, pieces?, List.map_nil]
  | cons c rest ih =>
      rw [escapeValue] at ih ⊢
      rw [List.flatMap_cons, pieces?_escapeValueChar, ih]
      rfl

/-- A written value holds no quote and no opening angle bracket. -/
theorem not_mem_escapeValue (value : List Char) :
    '"' ∉ escapeValue value ∧ '<' ∉ escapeValue value := by
  have single (c : Char) : '"' ∉ escapeValueChar c ∧ '<' ∉ escapeValueChar c := by
    simp only [escapeValueChar, escapeTextChar]
    split_ifs <;> simp_all [eq_comm]
  simp only [escapeValue, List.mem_flatMap, not_exists, not_and]
  exact ⟨fun c _ => (single c).1, fun c _ => (single c).2⟩

/-- An entity that every document has stands for its character in a value. -/
theorem inValue?_predefined {name : List Char} {c : Char} (known : predefined.lookup name = some c)
    (entities : Entities) (depth : Nat) :
    Piece.inValue? entities depth (.entity name) = some [c] := by
  cases depth <;> simp [Piece.inValue?, known]

theorem inValue?_valuePiece (entities : Entities) (depth : Nat) (c : Char) :
    Piece.inValue? entities depth (valuePiece c) = some [c] := by
  rw [valuePiece, textPiece]
  split_ifs with quote white amp lt gt
  · exact quote ▸ inValue?_predefined rfl entities depth
  · cases depth <;> rfl
  · exact amp ▸ inValue?_predefined rfl entities depth
  · exact lt ▸ inValue?_predefined rfl entities depth
  · exact gt ▸ inValue?_predefined rfl entities depth
  · cases depth <;> simp_all [Piece.inValue?, isSpace]

/-- The pieces of a value stand for its characters, whatever a document declares. -/
theorem value?_valuePieces (entities : Entities) (depth : Nat) (value : List Char) :
    value? entities depth (value.map valuePiece) = some value := by
  induction value with
  | nil => rfl
  | cons c rest ih =>
      rw [value?, Option.map_eq_some_iff] at ih ⊢
      obtain ⟨texts, converted, same⟩ := ih
      refine ⟨[c] :: texts, ?_, ?_⟩
      · simp [inValue?_valuePiece, converted]
      · rw [List.flatten_cons, same]
        rfl

/-! ## Texts -/

/-- What happens where a character of a text was written. -/
def textEvent (c : Char) : Event :=
  if c = '&' ∨ c = '<' ∨ c = '>' then .text [c] else .character c

/-- An entity that every document has stands for its character in a text. -/
theorem events?_predefined {name : List Char} {c : Char} (known : predefined.lookup name = some c)
    (entities : Entities) (depth : Nat) :
    Token.events? entities depth (.piece (.entity name)) = some [.text [c]] := by
  cases depth <;> simp [Token.events?, known]

theorem events?_textPiece (entities : Entities) (depth : Nat) (c : Char) :
    Token.events? entities depth (.piece (textPiece c)) = some [textEvent c] := by
  rw [textPiece]
  split_ifs with amp lt gt
  · exact amp ▸ events?_predefined rfl entities depth
  · exact lt ▸ events?_predefined rfl entities depth
  · exact gt ▸ events?_predefined rfl entities depth
  · cases depth <;> simp [Token.events?, textEvent, amp, lt, gt]

end VectorScene.Markup
