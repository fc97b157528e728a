import VectorScene.Markup.Token
import VectorScene.Proofs.Markup.Scanner

/-!
# Tokens of legal texts

The tokens of a legal text have qualified names and hold legal characters.  Tags
and remarks are taken off with the rest of the text left as it is.
-/

namespace VectorScene.Markup

/-- A token whose names are qualified and whose characters are legal. -/
def Token.Legal : Token → Prop
  | .piece part => part.Legal
  | .verbatim text => LegalText text
  | .openTag name attributes =>
      Qualified name ∧ ∀ pair ∈ attributes, Qualified pair.1 ∧ ∀ part ∈ pair.2, part.Legal
  | .closeTag _ => True

/-! ## Tags -/

theorem attributePair?_spec {text rest : List Char} {pair : List Char × List Piece}
    (legal : LegalText text) (found : attributePair? text = some (pair, rest)) :
    (Qualified pair.1 ∧ ∀ part ∈ pair.2, part.Legal) ∧ rest <:+ text := by
  obtain ⟨⟨name, afterName⟩, named, found⟩ := Option.bind_eq_some_iff.1 found
  obtain ⟨afterMark, marked, found⟩ := Option.bind_eq_some_iff.1 found
  obtain ⟨⟨value, afterValue⟩, quoted, found⟩ := Option.bind_eq_some_iff.1 found
  obtain ⟨qualified, nameSuffix⟩ := name?_spec named
  obtain ⟨valueLegal, valueSuffix⟩ := literal?_spec quoted
  have markSuffix : afterMark <:+ text :=
    ((after?_suffix marked).trans (List.dropWhile_suffix _)).trans nameSuffix
  have openSuffix : afterMark.dropWhile isSpace <:+ text :=
    (List.dropWhile_suffix _).trans markSuffix
  obtain ⟨parts, read, same⟩ := Option.map_eq_some_iff.1 found
  cases same
  have partsLegal := legal_of_valuePieces? (valueLegal (legal.of_suffix openSuffix)) read
  exact ⟨⟨qualified, partsLegal⟩, valueSuffix.trans openSuffix⟩

theorem tagEnd?_suffix {text rest : List Char} {tagEnd : TagEnd}
    (found : tagEnd? text = some (tagEnd, rest)) : rest <:+ text := by
  unfold tagEnd? at found
  split at found
  · cases found
    exact List.suffix_cons '>' rest
  · cases found
    exact (List.suffix_cons '>' rest).trans (List.suffix_cons '/' _)
  · cases found

theorem attributes?_spec {text rest : List Char} {pairs : List (List Char × List Piece)}
    {tagEnd : TagEnd} (legal : LegalText text)
    (found : attributes? text = some (pairs, tagEnd, rest)) :
    (∀ pair ∈ pairs, Qualified pair.1 ∧ ∀ part ∈ pair.2, part.Legal) ∧ rest <:+ text := by
  have blanks := List.dropWhile_suffix (l := text) isSpace
  fun_induction attributes? text generalizing pairs tagEnd rest with
  | case1 text tagEnd' rest' ended =>
      cases found
      exact ⟨List.forall_mem_nil _, (tagEnd?_suffix ended).trans blanks⟩
  | case2 text notEnded spaced pair rest' taken ih =>
      obtain ⟨⟨pairs', tagEnd', rest''⟩, inner, same⟩ := Option.map_eq_some_iff.1 found
      cases same
      obtain ⟨pairLegal, pairSuffix⟩ := attributePair?_spec (legal.of_suffix blanks) taken
      have suffix := pairSuffix.trans blanks
      obtain ⟨othersLegal, innerSuffix⟩ :=
        ih (legal.of_suffix suffix) inner (List.dropWhile_suffix _)
      exact ⟨List.forall_mem_cons.2 ⟨pairLegal, othersLegal⟩, innerSuffix.trans suffix⟩
  | case3 => cases found
  | case4 => cases found

/-! ## Steps -/

section

variable {text rest : List Char} {tokens : List Token}

theorem openTag?_spec (legal : LegalText text) (found : openTag? text = some (tokens, rest)) :
    (∀ token ∈ tokens, token.Legal) ∧ rest <:+ text := by
  obtain ⟨⟨name, afterName⟩, named, found⟩ := Option.bind_eq_some_iff.1 found
  obtain ⟨⟨pairs, tagEnd, afterEnd⟩, ended, same⟩ := Option.map_eq_some_iff.1 found
  obtain ⟨qualified, nameSuffix⟩ := name?_spec named
  obtain ⟨pairsLegal, endSuffix⟩ := attributes?_spec (legal.of_suffix nameSuffix) ended
  have tagLegal : (Token.openTag name pairs).Legal := ⟨qualified, pairsLegal⟩
  cases tagEnd with
  | opened =>
      cases same
      exact ⟨List.forall_mem_singleton.2 tagLegal, endSuffix.trans nameSuffix⟩
  | empty =>
      cases same
      refine ⟨List.forall_mem_cons.2 ⟨tagLegal, ?_⟩, endSuffix.trans nameSuffix⟩
      exact List.forall_mem_singleton.2 trivial

theorem closeTag?_spec (found : closeTag? text = some (tokens, rest)) :
    (∀ token ∈ tokens, token.Legal) ∧ rest <:+ text := by
  obtain ⟨⟨name, afterName⟩, named, found⟩ := Option.bind_eq_some_iff.1 found
  obtain ⟨afterMark, marked, same⟩ := Option.map_eq_some_iff.1 found
  cases same
  have suffix := (after?_suffix marked).trans (List.dropWhile_suffix _)
  exact ⟨List.forall_mem_singleton.2 trivial, suffix.trans (name?_spec named).2⟩

theorem afterComment?_suffix (found : afterComment? text = some rest) : rest <:+ text := by
  obtain ⟨opened, marked, found⟩ := Option.bind_eq_some_iff.1 found
  obtain ⟨⟨content, closed⟩, split, found⟩ := Option.bind_eq_some_iff.1 found
  exact ((after?_suffix found).trans (splitAt?_suffix split)).trans (after?_suffix marked)

theorem afterInstruction?_suffix (found : afterInstruction? text = some rest) : rest <:+ text := by
  obtain ⟨opened, marked, found⟩ := Option.bind_eq_some_iff.1 found
  obtain ⟨⟨target, afterTarget⟩, named, found⟩ := Option.bind_eq_some_iff.1 found
  have suffix := (plainName?_spec named).2.trans (after?_suffix marked)
  dsimp only at found
  split at found
  · cases found
  · rcases Option.or_eq_some_iff.1 found with ended | ⟨-, spaced⟩
    · exact (after?_suffix ended).trans suffix
    · split at spaced
      · obtain ⟨⟨content, rest'⟩, split, rfl⟩ := Option.map_eq_some_iff.1 spaced
        exact (splitAt?_suffix split).trans suffix
      · cases spaced

theorem verbatim?_spec (legal : LegalText text) (found : verbatim? text = some (tokens, rest)) :
    (∀ token ∈ tokens, token.Legal) ∧ rest <:+ text := by
  obtain ⟨opened, marked, found⟩ := Option.bind_eq_some_iff.1 found
  obtain ⟨⟨content, closed⟩, split, same⟩ := Option.map_eq_some_iff.1 found
  cases same
  have suffix := after?_suffix marked
  have contentLegal := (legal.of_suffix suffix).of_splitAt? split
  exact ⟨List.forall_mem_singleton.2 contentLegal, (splitAt?_suffix split).trans suffix⟩

/-- One step takes legal tokens off a legal text. -/
theorem step?_spec (legal : LegalText text) (found : step? text = some (tokens, rest)) :
    (∀ token ∈ tokens, token.Legal) ∧ rest <:+ text := by
  unfold step? at found
  split at found
  next => cases found
  next c text =>
    have inner := List.suffix_cons c text
    split at found
    · split at found
      next text =>
        obtain ⟨tokensLegal, suffix⟩ := closeTag?_spec found
        exact ⟨tokensLegal, (suffix.trans (List.suffix_cons '/' text)).trans inner⟩
      next text =>
        rcases Option.or_eq_some_iff.1 found with comment | ⟨-, section_⟩
        · obtain ⟨rest', taken, same⟩ := Option.map_eq_some_iff.1 comment
          cases same
          exact ⟨List.forall_mem_nil _, afterComment?_suffix taken⟩
        · exact verbatim?_spec legal section_
      next text =>
        obtain ⟨rest', taken, same⟩ := Option.map_eq_some_iff.1 found
        cases same
        exact ⟨List.forall_mem_nil _, afterInstruction?_suffix taken⟩
      next =>
        obtain ⟨tokensLegal, suffix⟩ := openTag?_spec (legal.of_suffix inner) found
        exact ⟨tokensLegal, suffix.trans inner⟩
    · split at found
      · obtain ⟨⟨part, rest'⟩, taken, same⟩ := Option.map_eq_some_iff.1 found
        cases same
        obtain ⟨partLegal, suffix⟩ := reference?_spec taken
        exact ⟨List.forall_mem_singleton.2 partLegal, suffix.trans inner⟩
      · split at found
        · cases found
        · cases found
          have character : (Token.piece (.character c)).Legal := (legalText_cons.1 legal).1
          exact ⟨List.forall_mem_singleton.2 character, inner⟩

end

/-- A legal text consists of legal tokens. -/
theorem legal_of_tokens? {text : List Char} (legal : LegalText text) {tokens : List Token}
    (found : tokens? text = some tokens) : ∀ token ∈ tokens, token.Legal := by
  fun_induction tokens? text generalizing tokens with
  | case1 =>
      cases found
      exact List.forall_mem_nil _
  | case2 text nonempty taken rest step ih =>
      obtain ⟨others, read, rfl⟩ := Option.map_eq_some_iff.1 found
      obtain ⟨takenLegal, suffix⟩ := step?_spec legal step
      exact List.forall_mem_append.2 ⟨takenLegal, ih (legal.of_suffix suffix) read⟩
  | case3 => cases found

end VectorScene.Markup
