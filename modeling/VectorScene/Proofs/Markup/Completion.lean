import VectorScene.Markup.Completion
import VectorScene.Proofs.Markup.Event

/-!
# Declared attributes of legal texts

Declarations of attributes bring in legal values only, but their names need not be qualified.
A document without a document type has the attributes that its tags have.
-/

namespace VectorScene.Markup

theorem Qualified.declarable {name : List Char} (qualified : Qualified name) :
    Declarable name := by
  refine qualified.imp_right ?_
  rintro ⟨label, inner, rfl, labelPlain, innerPlain⟩
  have noColon : ':' ∉ label := not_mem_of_isPlainName labelPlain rfl
  have filled : inner.isEmpty = false := by
    cases inner with
    | nil => cases innerPlain
    | cons c inner => rfl
  have within : inner.all isNameChar = true :=
    List.all_eq_true.2 fun c member => isNameChar_of_isPlainName innerPlain member
  simp only [isLabelled, splitAt?_character noColon, labelPlain, filled, within, Bool.not_false,
    Bool.and_true]

/-! ## Values -/

theorem squeeze_sublist (text : List Char) : (squeeze text).Sublist text := by
  induction text with
  | nil => exact .slnil
  | cons c rest ih =>
      rw [squeeze]
      split
      · exact ih.cons c
      · exact ih.cons_cons c

theorem joinTokens_sublist (value : List Char) : (joinTokens value).Sublist value :=
  (squeeze_sublist _).trans (List.dropWhile_sublist _)

theorem LegalText.conform {α : Type} {value : List Char} (legal : LegalText value)
    (declaration : AttributeDeclaration α) : LegalText (declaration.conform value) := by
  rw [AttributeDeclaration.conform]
  split
  · exact fun c member => legal c ((joinTokens_sublist value).subset member)
  · exact legal

/-! ## Attributes -/

namespace AttributeRules

theorem legalText_value (rules : AttributeRules) (element name : List Char) {given : List Char}
    (legal : LegalText given) : LegalText (rules.value element name given) := by
  rw [value]
  split
  next rule _ => exact legal.conform rule
  next => exact legal

section

variable {rules : AttributeRules} (legal : ∀ rule ∈ rules, rule.Legal LegalText)

include legal

/-- Attributes by default have declared names and legal values. -/
theorem legal_defaults (element : List Char) (known : List (List Char)) :
    ∀ pair ∈ defaults element known rules, Declarable pair.1 ∧ LegalText pair.2 := by
  induction rules generalizing known with
  | nil => exact List.forall_mem_nil _
  | cons rule rest ih =>
      rw [List.forall_mem_cons] at legal
      rw [defaults]
      split
      · split
        next value given =>
          have valueLegal := (legal.1.default value given).conform rule
          exact List.forall_mem_cons.2 ⟨⟨legal.1.name, valueLegal⟩, ih legal.2 _⟩
        next => exact ih legal.2 _
      · exact ih legal.2 _

end

end AttributeRules

theorem Event.Legal.complete {rules : AttributeRules}
    (rulesLegal : ∀ rule ∈ rules, rule.Legal LegalText) {event : Event}
    (legal : event.Legal Qualified) : (event.complete rules).Legal Declarable := by
  cases event with
  | start name attributes =>
      refine ⟨legal.1, List.forall_mem_append.2
        ⟨List.forall_mem_map.2 fun pair member => ?_, AttributeRules.legal_defaults rulesLegal _ _⟩⟩
      obtain ⟨qualified, valueLegal⟩ := legal.2 pair member
      exact ⟨qualified.declarable, rules.legalText_value _ _ valueLegal⟩
  | finish name => exact legal
  | character c => exact legal
  | text content => exact legal

/-! ## Documents -/

theorem Event.complete_nil (event : Event) : event.complete [] = event := by
  cases event with
  | start name attributes =>
      rw [complete, AttributeRules.complete, AttributeRules.defaults, List.append_nil]
      exact congrArg (Event.start name) (List.map_id attributes)
  | finish name => rfl
  | character c => rfl
  | text content => rfl

namespace Doctype

variable {doctype : Doctype}

theorem Legal.rules? (legal : doctype.Legal) {rules : AttributeRules}
    (found : doctype.rules? = some rules) : ∀ rule ∈ rules, rule.Legal LegalText := by
  refine forall_of_mapM found fun declaration member rule stands => ?_
  refine (legal.attributes declaration member).mapM (fun pair known value given => ?_) stands
  exact legalText_of_value? known.1 known.2 given

/-- The events of the content of a legal document are legal. -/
theorem Legal.events? (legal : doctype.Legal) {text : List Char} (textLegal : LegalText text)
    {events : List Event} (found : doctype.events? text = some events) :
    ∀ event ∈ events, event.Legal Declarable := by
  obtain ⟨rules, declared, found⟩ := Option.bind_eq_some_iff.1 found
  obtain ⟨bare, read, rfl⟩ := Option.map_eq_some_iff.1 found
  refine List.forall_mem_map.2 fun event member => ?_
  exact (legal_of_events? legal.entities textLegal read event member).complete
    (legal.rules? declared)

/-- Without a document type, the events are those of the text. -/
theorem events?_empty (text : List Char) :
    empty.events? text = Markup.events? ⟨[], false⟩ text := by
  have rules : empty.rules? = some [] := rfl
  have kept : List.map (Event.complete []) = id := by
    funext events
    exact (List.map_congr_left fun event _ => event.complete_nil).trans (List.map_id events)
  rw [events?, rules, Option.bind_some, kept]
  exact Option.map_id'

end Doctype

end VectorScene.Markup
