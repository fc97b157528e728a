import VectorScene.Markup.Event
import VectorScene.Proofs.Markup.Prolog

/-!
# Events of legal texts

Replacing references brings in legal characters only, because the replacements of
entities are parts of the document.
-/

namespace VectorScene.Markup

/-- An event with legal characters, whose names are qualified, or of some other kind if they are
names of attributes. -/
def Event.Legal (named : List Char → Prop) : Event → Prop
  | .start name attributes =>
      Qualified name ∧ ∀ pair ∈ attributes, named pair.1 ∧ LegalText pair.2
  | .finish _ => True
  | .character c => isLegal c = true
  | .text content => LegalText content

theorem Event.Legal.inEntity {named : List Char → Prop} {event : Event}
    (legal : event.Legal named) : event.inEntity.Legal named := by
  cases event with
  | start name attributes => exact legal
  | finish name => exact legal
  | character c => exact legalText_cons.2 ⟨legal, legalText_nil⟩
  | text content => exact legal

/-! ## Tables and lists -/

theorem mem_of_lookup {α β : Type} [BEq α] [LawfulBEq α] {pairs : List (α × β)} {key : α}
    {value : β} (found : pairs.lookup key = some value) : (key, value) ∈ pairs := by
  obtain ⟨before, after, same, -⟩ := List.lookup_eq_some_iff.1 found
  rw [same]
  exact List.mem_append_right _ List.mem_cons_self

theorem isLegal_of_predefined {name : List Char} {c : Char}
    (found : predefined.lookup name = some c) : isLegal c = true := by
  have all : ∀ pair ∈ predefined, isLegal pair.2 = true := by decide
  exact all (name, c) (mem_of_lookup found)

theorem legalText_singleton {c : Char} : LegalText [c] ↔ isLegal c = true :=
  List.forall_mem_singleton

theorem legalText_flatten {texts : List (List Char)} (legal : ∀ text ∈ texts, LegalText text) :
    LegalText texts.flatten := by
  intro c member
  obtain ⟨text, inside, within⟩ := List.mem_flatten.1 member
  exact legal text inside c within

section

variable {entities : Entities}

/-! ## Values -/

/-- A legal piece of a value stands for legal text, down to any depth of entities. -/
theorem legalText_of_inValue? (replacements : LegalEntities entities.declared) (depth : Nat)
    (part : Piece) (legal : part.Legal) {content : List Char}
    (found : Piece.inValue? entities depth part = some content) : LegalText content := by
  have unknown (found : (if entities.lenient then some [] else none) = some content) :
      LegalText content := by
    obtain ⟨-, same⟩ := Option.ite_none_right_eq_some.1 found
    cases same
    exact legalText_nil
  match depth, part, legal with
  | _, .character c, legal =>
      rw [Piece.inValue?, Option.some.injEq] at found
      rw [← found, legalText_singleton]
      split
      · rfl
      · exact legal
  | _, .code c, legal =>
      rw [Piece.inValue?, Option.some.injEq] at found
      rw [← found, legalText_singleton]
      exact legal
  | 0, .entity name, _ =>
      rw [Piece.inValue?] at found
      split at found
      next c known =>
        cases found
        exact legalText_singleton.2 (isLegal_of_predefined known)
      next => cases found
      next => exact unknown found
  | depth + 1, .entity name, _ =>
      rw [Piece.inValue?] at found
      split at found
      next c known =>
        cases found
        exact legalText_singleton.2 (isLegal_of_predefined known)
      next replacement _ declared =>
        have replacementLegal : LegalText replacement :=
          replacements _ (mem_of_lookup declared)
        split at found
        · cases found
        · obtain ⟨parts, read, found⟩ := Option.bind_eq_some_iff.1 found
          obtain ⟨contents, converted, rfl⟩ := Option.map_eq_some_iff.1 found
          have partsLegal := legal_of_pieces? replacementLegal read
          refine legalText_flatten (forall_of_mapM converted fun inner member result stands => ?_)
          exact legalText_of_inValue? replacements depth inner (partsLegal inner member) stands
      next => cases found
      next => exact unknown found

theorem legalText_of_value? (replacements : LegalEntities entities.declared) {depth : Nat}
    {parts : List Piece} (legal : ∀ part ∈ parts, part.Legal) {content : List Char}
    (found : value? entities depth parts = some content) : LegalText content := by
  obtain ⟨contents, converted, rfl⟩ := Option.map_eq_some_iff.1 found
  refine legalText_flatten (forall_of_mapM converted fun part member result stands => ?_)
  exact legalText_of_inValue? replacements depth part (legal part member) stands

/-! ## Tokens -/

theorem legal_of_events?_openTag (replacements : LegalEntities entities.declared) {depth : Nat}
    {name : List Char} {attributes : List (List Char × List Piece)}
    (legal : (Token.openTag name attributes).Legal) {events : List Event}
    (found : Token.events? entities depth (.openTag name attributes) = some events) :
    ∀ event ∈ events, event.Legal Qualified := by
  rw [Token.events?] at found
  obtain ⟨values, converted, rfl⟩ := Option.map_eq_some_iff.1 found
  refine List.forall_mem_singleton.2 ⟨legal.1, ?_⟩
  refine forall_of_mapM converted fun pair member result stands => ?_
  obtain ⟨content, value, rfl⟩ := Option.map_eq_some_iff.1 stands
  obtain ⟨qualified, partsLegal⟩ := legal.2 pair member
  exact ⟨qualified, legalText_of_value? replacements partsLegal value⟩

/-- A legal token stands for legal events, down to any depth of entities. -/
theorem legal_of_tokenEvents? (replacements : LegalEntities entities.declared) (depth : Nat)
    (token : Token) (legal : token.Legal) {events : List Event}
    (found : Token.events? entities depth token = some events) :
    ∀ event ∈ events, event.Legal Qualified := by
  match depth, token, legal with
  | _, .piece (.character c), legal =>
      rw [Token.events?, Option.some.injEq] at found
      rw [← found]
      exact List.forall_mem_singleton.2 legal
  | _, .piece (.code c), legal =>
      rw [Token.events?, Option.some.injEq] at found
      rw [← found]
      exact List.forall_mem_singleton.2 (legalText_singleton.2 legal)
  | _, .verbatim content, legal =>
      rw [Token.events?, Option.some.injEq] at found
      rw [← found]
      exact List.forall_mem_singleton.2 legal
  | _, .closeTag name, _ =>
      rw [Token.events?, Option.some.injEq] at found
      rw [← found]
      exact List.forall_mem_singleton.2 trivial
  | _, .openTag name attributes, legal => exact legal_of_events?_openTag replacements legal found
  | 0, .piece (.entity name), _ =>
      rw [Token.events?] at found
      obtain ⟨c, known, rfl⟩ := Option.map_eq_some_iff.1 found
      exact List.forall_mem_singleton.2 (legalText_singleton.2 (isLegal_of_predefined known))
  | depth + 1, .piece (.entity name), _ =>
      rw [Token.events?] at found
      split at found
      next c known =>
        cases found
        exact List.forall_mem_singleton.2 (legalText_singleton.2 (isLegal_of_predefined known))
      next replacement _ declared =>
        -- The tokens of a replacement are no parts of the token: the depth goes down.
        have replacementLegal : LegalText replacement :=
          replacements _ (mem_of_lookup declared)
        obtain ⟨tokens, read, found⟩ := Option.bind_eq_some_iff.1 found
        obtain ⟨happening, converted, found⟩ := Option.bind_eq_some_iff.1 found
        have tokensLegal := legal_of_tokens? replacementLegal read
        have inner : ∀ group ∈ happening, ∀ event ∈ group, event.Legal Qualified :=
          forall_of_mapM converted fun token member group stands =>
            legal_of_tokenEvents? replacements depth token (tokensLegal token member) stands
        split at found
        · cases found
          refine List.forall_mem_cons.2 ⟨legalText_nil, List.forall_mem_map.2 ?_⟩
          intro event member
          obtain ⟨group, inside, within⟩ := List.mem_flatten.1 member
          exact (inner group inside event within).inEntity
        · cases found
      next => cases found

/-- The events of a legal text are legal. -/
theorem legal_of_events? (replacements : LegalEntities entities.declared) {text : List Char}
    (legal : LegalText text) {events : List Event} (found : events? entities text = some events) :
    ∀ event ∈ events, event.Legal Qualified := by
  obtain ⟨tokens, read, found⟩ := Option.bind_eq_some_iff.1 found
  obtain ⟨happening, converted, rfl⟩ := Option.map_eq_some_iff.1 found
  have tokensLegal := legal_of_tokens? legal read
  have inner : ∀ group ∈ happening, ∀ event ∈ group, event.Legal Qualified :=
    forall_of_mapM converted fun token member group stands =>
      legal_of_tokenEvents? replacements _ token (tokensLegal token member) stands
  intro event member
  obtain ⟨group, inside, within⟩ := List.mem_flatten.1 member
  exact inner group inside event within

end

end VectorScene.Markup
