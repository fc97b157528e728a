import VectorScene.Proofs.Markup.Legal
import VectorScene.Proofs.Markup.Plain

/-!
# What scanners take

A scanner leaves a suffix of the text that it reads.  From a legal text it takes
names, and pieces that stand for legal characters.
-/

namespace VectorScene.Markup

theorem LegalText.of_suffix {text rest : List Char} (legal : LegalText text)
    (suffix : rest <:+ text) : LegalText rest :=
  fun c member => legal c (suffix.subset member)

/-! ## Marks -/

theorem after?_suffix {mark text rest : List Char} (found : after? mark text = some rest) :
    rest <:+ text := by
  rw [after?_eq_append found]
  exact List.suffix_append mark rest

/-- A text is split around the mark. -/
theorem splitAt?_eq_append {mark text before rest : List Char}
    (found : splitAt? mark text = some (before, rest)) : text = before ++ (mark ++ rest) := by
  induction text generalizing before with
  | nil => cases found
  | cons c text ih =>
      rw [splitAt?] at found
      split at found
      next rest' marked =>
        cases found
        rw [List.nil_append]
        exact after?_eq_append marked
      next =>
        obtain ⟨⟨inner, rest'⟩, split, same⟩ := Option.map_eq_some_iff.1 found
        cases same
        rw [ih split, List.cons_append]

theorem splitAt?_suffix {mark text before rest : List Char}
    (found : splitAt? mark text = some (before, rest)) : rest <:+ text := by
  rw [splitAt?_eq_append found, ← List.append_assoc]
  exact List.suffix_append _ rest

theorem LegalText.of_splitAt? {mark text before rest : List Char} (legal : LegalText text)
    (found : splitAt? mark text = some (before, rest)) : LegalText before := by
  rw [splitAt?_eq_append found] at legal
  exact (legalText_append.1 legal).1

/-! ## Names -/

/-- A plain name, or two of them with a colon between. -/
def Qualified (name : List Char) : Prop :=
  isPlainName name = true ∨
    ∃ label inner, name = label ++ ':' :: inner ∧ isPlainName label = true ∧
      isPlainName inner = true

/-- The part of a qualified name after its label is plain. -/
theorem Qualified.isPlainName_splitLabel {name : String} (qualified : Qualified name.toList) :
    isPlainName (splitLabel name).2 = true := by
  rcases qualified with plain | ⟨label, inner, same, labelPlain, innerPlain⟩
  · rw [splitLabel_of_isPlainName plain]
    exact plain
  · have noColon : ':' ∉ label := not_mem_of_isPlainName labelPlain rfl
    rw [splitLabel, same, splitAt?_character noColon]
    exact innerPlain

theorem plainName?_spec {text name rest : List Char}
    (found : plainName? text = some (name, rest)) :
    isPlainName name = true ∧ rest <:+ text := by
  cases text with
  | nil => cases found
  | cons c text =>
      rw [plainName?] at found
      split at found
      next start =>
        cases found
        constructor
        · rw [isPlainName, start, List.all_takeWhile]
          rfl
        · exact (List.dropWhile_suffix _).trans (List.suffix_cons c text)
      next => cases found

theorem name?_spec {text name rest : List Char} (found : name? text = some (name, rest)) :
    Qualified name ∧ rest <:+ text := by
  obtain ⟨⟨label, afterLabel⟩, labelled, second⟩ := Option.bind_eq_some_iff.1 found
  obtain ⟨labelPlain, afterSuffix⟩ := plainName?_spec labelled
  split at second
  next label' afterColon same =>
    obtain ⟨⟨inner, afterInner⟩, named, whole⟩ := Option.map_eq_some_iff.1 second
    obtain ⟨innerPlain, innerSuffix⟩ := plainName?_spec named
    cases same
    cases whole
    constructor
    · exact .inr ⟨label, inner, rfl, labelPlain, innerPlain⟩
    · exact (innerSuffix.trans (List.suffix_cons ':' _)).trans afterSuffix
  next =>
    cases second
    exact ⟨.inl labelPlain, afterSuffix⟩

/-! ## References -/

/-- A piece that stands for a legal character, or that refers to an entity by a plain
name. -/
def Piece.Legal : Piece → Prop
  | .character c => isLegal c = true
  | .code c => isLegal c = true
  | .entity name => isPlainName name = true

theorem isLegal_of_characterOfCode? {code : Nat} {c : Char}
    (found : characterOfCode? code = some c) : isLegal c = true := by
  rw [characterOfCode?] at found
  by_cases valid : code.isValidChar
  · rw [dif_pos valid] at found
    obtain ⟨legal, same⟩ := Option.ite_none_right_eq_some.1 found
    rw [← Option.some.inj same]
    exact legal
  · rw [dif_neg valid] at found
    cases found

theorem code?_spec {isDigit : Char → Bool} {value : List Char → Nat} {text rest : List Char}
    {part : Piece} (found : code? isDigit value text = some (part, rest)) :
    part.Legal ∧ rest <:+ text := by
  have suffix := List.dropWhile_suffix (l := text) isDigit
  rw [code?] at found
  split at found
  next rest' dropped =>
    rw [dropped] at suffix
    dsimp only at found
    split at found
    · cases found
    · obtain ⟨c, legal, same⟩ := Option.map_eq_some_iff.1 found
      cases same
      exact ⟨isLegal_of_characterOfCode? legal, (List.suffix_cons ';' _).trans suffix⟩
  next => cases found

theorem reference?_spec {text rest : List Char} {part : Piece}
    (found : reference? text = some (part, rest)) : part.Legal ∧ rest <:+ text := by
  unfold reference? at found
  split at found
  next hexadecimal =>
    obtain ⟨legal, suffix⟩ := code?_spec found
    exact ⟨legal, (suffix.trans (List.suffix_cons 'x' _)).trans (List.suffix_cons '#' _)⟩
  next decimal _ =>
    obtain ⟨legal, suffix⟩ := code?_spec found
    exact ⟨legal, suffix.trans (List.suffix_cons '#' _)⟩
  next =>
    obtain ⟨⟨name, afterName⟩, named, second⟩ := Option.bind_eq_some_iff.1 found
    obtain ⟨rest', marked, same⟩ := Option.map_eq_some_iff.1 second
    cases same
    obtain ⟨plain, suffix⟩ := plainName?_spec named
    exact ⟨plain, (after?_suffix marked).trans suffix⟩

/-- A legal text consists of legal pieces. -/
theorem legal_of_pieces? {text : List Char} (legal : LegalText text) {parts : List Piece}
    (found : pieces? text = some parts) : ∀ part ∈ parts, part.Legal := by
  fun_induction pieces? text generalizing parts with
  | case1 =>
      cases found
      exact List.forall_mem_nil _
  | case2 text part rest taken ih =>
      obtain ⟨others, read, rfl⟩ := Option.map_eq_some_iff.1 found
      obtain ⟨partLegal, suffix⟩ := reference?_spec taken
      have restLegal := legal.of_suffix (suffix.trans (List.suffix_cons '&' text))
      exact List.forall_mem_cons.2 ⟨partLegal, ih restLegal read⟩
  | case3 => cases found
  | case4 c rest other ih =>
      obtain ⟨others, read, rfl⟩ := Option.map_eq_some_iff.1 found
      rw [legalText_cons] at legal
      exact List.forall_mem_cons.2 ⟨legal.1, ih legal.2 read⟩

theorem legal_of_valuePieces? {value : List Char} (legal : LegalText value) {parts : List Piece}
    (found : valuePieces? value = some parts) : ∀ part ∈ parts, part.Legal := by
  rw [valuePieces?] at found
  split at found
  · cases found
  · exact legal_of_pieces? legal found

/-- A literal stands between two quotes. -/
theorem literal?_spec {text value rest : List Char} (found : literal? text = some (value, rest)) :
    (LegalText text → LegalText value) ∧ rest <:+ text := by
  unfold literal? at found
  split at found
  next quote text =>
    split at found
    · constructor
      · intro legal
        exact (legalText_cons.1 legal).2.of_splitAt? found
      · exact (splitAt?_suffix found).trans (List.suffix_cons quote text)
    · cases found
  next => cases found

end VectorScene.Markup
