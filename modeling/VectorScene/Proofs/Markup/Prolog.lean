import VectorScene.Markup.Expansion
import VectorScene.Proofs.Markup.Declaration

/-!
# Prologs of legal texts

What a legal text declares is legal: the replacements of entities, and the names and values
of attributes.  The prolog leaves a suffix of the text for the root element.
-/

namespace VectorScene.Markup

/-- Entities whose replacements hold legal characters only. -/
def LegalEntities (declared : List (List Char × Entity)) : Prop :=
  ∀ pair ∈ declared, LegalText pair.2.replacement

/-- A value by default with legal pieces, where legal entities are known. -/
def LegalDefault (value : Entities × List Piece) : Prop :=
  LegalEntities value.1.declared ∧ ∀ part ∈ value.2, part.Legal

/-- A document type with legal entities and attributes. -/
structure Doctype.Legal (doctype : Doctype) : Prop where
  entities : LegalEntities doctype.entities.declared
  attributes : ∀ declaration ∈ doctype.attributes, declaration.Legal LegalDefault

/-- What all conversions of members have in common holds of the converted list. -/
theorem forall_of_mapM {α β : Type} {convert : α → Option β} {items : List α} {results : List β}
    (found : items.mapM convert = some results) {known : β → Prop}
    (each : ∀ item ∈ items, ∀ result, convert item = some result → known result) :
    ∀ result ∈ results, known result := by
  induction items generalizing results with
  | nil =>
      cases found
      exact List.forall_mem_nil _
  | cons item rest ih =>
      rw [List.forall_mem_cons] at each
      rw [List.mapM_cons] at found
      obtain ⟨first, converted, found⟩ := Option.bind_eq_some_iff.1 found
      obtain ⟨others, later, same⟩ := Option.bind_eq_some_iff.1 found
      cases same
      exact List.forall_mem_cons.2 ⟨each.1 first converted, ih later each.2⟩

section

variable {text rest : List Char}

/-! ## Before the document type -/

/-- A legal literal declares a legal replacement. -/
theorem legalText_of_replacement? {value replacement : List Char} (legal : LegalText value)
    (found : replacement? value = some replacement) : LegalText replacement := by
  rw [replacement?] at found
  split at found
  · cases found
  · obtain ⟨parts, read, rfl⟩ := Option.map_eq_some_iff.1 found
    refine .flatMap fun part member => ?_
    have partLegal := legal_of_pieces? legal read part member
    cases part with
    | character c => exact legalText_cons.2 ⟨partLegal, legalText_nil⟩
    | code c => exact legalText_cons.2 ⟨partLegal, legalText_nil⟩
    | entity name =>
        have ampersand : LegalText ['&'] := by decide
        have semicolon : LegalText [';'] := by decide
        have nameLegal := (isName_of_isPlainName partLegal).legalText
        exact legalText_append.2 ⟨legalText_append.2 ⟨ampersand, nameLegal⟩, semicolon⟩

theorem legalText_of_declared? {value : Option (List Char)} {entity : Entity}
    (legal : ∀ text ∈ value, LegalText text) (found : Entity.declared? value = some entity) :
    LegalText entity.replacement := by
  cases value with
  | none =>
      cases found
      exact legalText_nil
  | some text =>
      obtain ⟨replacement, replaced, rfl⟩ := Option.map_eq_some_iff.1 found
      exact legalText_of_replacement? (legal text rfl) replaced

/-- A legal declaration keeps a document type legal. -/
theorem Doctype.Legal.declare? {doctype result : Doctype} (known : doctype.Legal)
    {declaration : Declaration} (legal : declaration.Legal)
    (found : doctype.declare? declaration = some result) : result.Legal := by
  cases declaration with
  | entity isParameter name text =>
      obtain ⟨entity, declares, rfl⟩ := Option.map_eq_some_iff.1 found
      split
      · exact known
      · have entityLegal := legalText_of_declared? legal declares
        exact ⟨List.forall_mem_append.2 ⟨known.entities, List.forall_mem_singleton.2 entityLegal⟩,
          known.attributes⟩
  | attributes declared =>
      obtain ⟨more, converted, rfl⟩ := Option.map_eq_some_iff.1 found
      refine ⟨known.entities, List.forall_mem_append.2 ⟨known.attributes, ?_⟩⟩
      refine forall_of_mapM converted fun declaration member result stands => ?_
      refine (legal declaration member).mapM (fun value valueLegal pair given => ?_) stands
      obtain ⟨parts, read, rfl⟩ := Option.map_eq_some_iff.1 given
      exact ⟨known.entities, legal_of_valuePieces? valueLegal read⟩
  | reference =>
      cases found
      exact known
  | inert =>
      cases found
      exact known

end

end VectorScene.Markup
