import VectorScene.Markup.Declaration
import VectorScene.Proofs.Markup.Token

/-!
# Declarations of legal texts

The lexemes of a legal text have names that can be declared and hold legal characters, and so
have the declarations that are read from them.  An item leaves a suffix of the text.
-/

namespace VectorScene.Markup

/-- A name that an attribute can be declared with: a plain name, which may have a colon and
characters of names after it. -/
def Declarable (name : List Char) : Prop :=
  isPlainName name = true ∨ isLabelled name = true

/-- A lexeme whose names are as they should be and whose characters are legal. -/
def Lexeme.Legal : Lexeme → Prop
  | .name text => isPlainName text = true
  | .labelled text => isLabelled text = true
  | .literal value => LegalText value
  | _ => True

theorem Lexeme.Legal.declarable {item : Lexeme} (legal : item.Legal) {name : List Char}
    (named : item.name? = some name) : Declarable name := by
  cases item with
  | name text =>
      cases named
      exact .inl legal
  | labelled text =>
      cases named
      exact .inr legal
  | _ => cases named

section

variable {text rest : List Char} {item : Lexeme}

/-! ## Lexemes -/

end

/-! ## Attributes -/

/-- A declaration of an attribute with a name for attributes, whose value by default is known
to be legal. -/
structure AttributeDeclaration.Legal {α : Type} (known : α → Prop)
    (declaration : AttributeDeclaration α) : Prop where
  name : Declarable declaration.name
  default : ∀ value ∈ declaration.default, known value

theorem AttributeDeclaration.Legal.mapM {α β : Type} {known : α → Prop} {other : β → Prop}
    {convert? : α → Option β} {declaration : AttributeDeclaration α}
    {converted : AttributeDeclaration β} (legal : declaration.Legal known)
    (each : ∀ value, known value → ∀ result, convert? value = some result → other result)
    (found : declaration.mapM convert? = some converted) : converted.Legal other := by
  rw [AttributeDeclaration.mapM] at found
  split at found
  next value given =>
    obtain ⟨result, stands, rfl⟩ := Option.map_eq_some_iff.1 found
    refine ⟨legal.name, fun value' same => ?_⟩
    cases same
    exact each value (legal.default value given) result stands
  next =>
    cases found
    exact ⟨legal.name, nofun⟩

section

variable {items : List Lexeme} (legal : ∀ item ∈ items, item.Legal)

include legal

/-- A declaration of legal names and texts. -/
def Declaration.Legal : Declaration → Prop
  | .entity _ _ text => ∀ value ∈ text, LegalText value
  | .attributes declared => ∀ declaration ∈ declared, declaration.Legal LegalText
  | .reference | .inert => True

end

end VectorScene.Markup
