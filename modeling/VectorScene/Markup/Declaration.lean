import VectorScene.Markup.Token

/-!
# Declarations

A document type declares entities and attributes.  It may also declare notations and
the content of elements, which has no effect but must be well-formed.  What stands
between the keyword of a declaration and its closing angle bracket is read as a list of
lexemes first.
-/

namespace VectorScene.Markup

/-! ## Lexemes -/

/-- A part of a declaration. -/
inductive Lexeme where
  /-- A plain name. -/
  | name (text : List Char)
  /-- A plain name, a colon, and characters of names, of which any may come first. -/
  | labelled (text : List Char)
  /-- Characters of names and colons that form no name. -/
  | token
  /-- A name with a mark of repetition. -/
  | repeated
  /-- A plain name after a number sign. -/
  | keyword (text : List Char)
  /-- A text between quotes. -/
  | literal (value : List Char)
  /-- An opening parenthesis, a comma, a bar, or a percent sign. -/
  | mark (c : Char)
  /-- A closing parenthesis, which may have a mark of repetition. -/
  | closing (repetition : Option Char)
  deriving DecidableEq

/-- Take white space off a text that starts with some. -/
def spaces? (text : List Char) : Option (List Char) :=
  if text.head?.any isSpace then some (text.dropWhile isSpace) else none

/-- Whether a text goes on with white space or one of some marks. -/
def goesOn (marks text : List Char) : Bool :=
  text.head?.any fun c => isSpace c || marks.contains c

/-- Take a literal off a text.  White space, a mark that ends the declaration, or
one that opens the next part follows it. -/
def delimitedLiteral? (text : List Char) : Option (List Char × List Char) :=
  (literal? text).bind fun (value, rest) =>
    if goesOn ['>', '[', '%'] rest then some (value, rest) else none

/-- The marks of repetition. -/
def isRepetition (c : Char) : Bool :=
  c = '*' || c = '+' || c = '?'

/-- Whether a word is a plain name, a colon, and characters of names. -/
def isLabelled (word : List Char) : Bool :=
  match splitAt? [':'] word with
  | some (label, inner) => isPlainName label && !inner.isEmpty && inner.all isNameChar
  | none => false

/-- The characters of words. -/
def isWordChar (c : Char) : Bool :=
  isNameChar c || c = ':'

/-- The lexeme of a word. -/
def Lexeme.ofWord (word : List Char) : Lexeme :=
  if isPlainName word then .name word
  else if isLabelled word then .labelled word
  else .token

/-- Take a word off a text.  Only names have marks of repetition. -/
def word? (text : List Char) : Option (Lexeme × List Char) :=
  let word := text.takeWhile isWordChar
  let rest := text.dropWhile isWordChar
  if word.isEmpty then none
  else if goesOn ['>', ')', ',', '|', '[', '%'] rest then some (.ofWord word, rest)
  else
    match rest with
    | c :: rest =>
        if isRepetition c && Lexeme.ofWord word != .token then some (.repeated, rest) else none
    | [] => none

/-- Take a keyword off a text that follows a number sign. -/
def keyword? (text : List Char) : Option (Lexeme × List Char) :=
  (plainName? text).bind fun (name, rest) =>
    if goesOn ['>', ')', '|', '%'] rest then some (.keyword name, rest) else none

/-- Take the end of a group off a text that follows a closing parenthesis. -/
def closing? : List Char → Option (Lexeme × List Char)
  | [] => none
  | c :: rest =>
      if isRepetition c then some (.closing (some c), rest)
      else if goesOn ['>', ')', ',', '|'] (c :: rest) then some (.closing none, c :: rest)
      else none

/-- Take the next lexeme off a text. -/
def lexeme? : List Char → Option (Lexeme × List Char)
  | [] => none
  | c :: rest =>
      if ['(', ',', '|'].contains c then some (.mark c, rest)
      else if c = '%' then if goesOn ['%'] rest then some (.mark c, rest) else none
      else if c = ')' then closing? rest
      else if c = '#' then keyword? rest
      else if c = '"' || c = '\'' then
        (delimitedLiteral? (c :: rest)).map fun (value, rest) => (.literal value, rest)
      else word? (c :: rest)

theorem delimitedLiteral?_shorter {text value rest : List Char}
    (found : delimitedLiteral? text = some (value, rest)) : rest.length < text.length := by
  obtain ⟨⟨value', rest'⟩, quoted, found⟩ := Option.bind_eq_some_iff.1 found
  dsimp only at found
  split at found
  · cases found
    exact literal?_shorter quoted
  · cases found

theorem word?_shorter {text rest : List Char} {item : Lexeme}
    (found : word? text = some (item, rest)) : rest.length < text.length := by
  have whole : (text.takeWhile isWordChar).length + (text.dropWhile isWordChar).length =
      text.length := by
    rw [← List.length_append, List.takeWhile_append_dropWhile]
  unfold word? at found
  dsimp only at found
  split at found
  · cases found
  next nonempty =>
    have positive : 0 < (text.takeWhile isWordChar).length :=
      List.length_pos_iff.2 fun none => nonempty (List.isEmpty_iff.2 none)
    split at found
    · cases found
      omega
    · split at found
      next c after dropped =>
        rw [dropped, List.length_cons] at whole
        split at found
        · cases found
          omega
        · cases found
      next => cases found

theorem keyword?_shorter {text rest : List Char} {item : Lexeme}
    (found : keyword? text = some (item, rest)) : rest.length < text.length := by
  obtain ⟨⟨name, rest'⟩, named, found⟩ := Option.bind_eq_some_iff.1 found
  dsimp only at found
  split at found
  · cases found
    exact plainName?_shorter named
  · cases found

theorem closing?_shorter {text rest : List Char} {item : Lexeme}
    (found : closing? text = some (item, rest)) : rest.length ≤ text.length := by
  unfold closing? at found
  split at found
  · cases found
  · split at found
    · cases found
      exact Nat.le_succ _
    · split at found
      · cases found
        exact Nat.le_refl _
      · cases found

theorem lexeme?_shorter {text rest : List Char} {item : Lexeme}
    (found : lexeme? text = some (item, rest)) : rest.length < text.length := by
  unfold lexeme? at found
  split at found
  · cases found
  · split at found
    · cases found
      exact Nat.lt_succ_self _
    · split at found
      · split at found
        · cases found
          exact Nat.lt_succ_self _
        · cases found
      · split at found
        · exact Nat.lt_succ_of_le (closing?_shorter found)
        · split at found
          · exact Nat.lt_succ_of_lt (keyword?_shorter found)
          · split at found
            · obtain ⟨⟨value, rest'⟩, quoted, same⟩ := Option.map_eq_some_iff.1 found
              cases same
              exact delimitedLiteral?_shorter quoted
            · exact word?_shorter found

/-- Take the lexemes of a declaration and its end off a text. -/
def lexemes? (text : List Char) : Option (List Lexeme × List Char) :=
  match text with
  | [] => none
  | c :: rest =>
      if c = '>' then some ([], rest)
      else if isSpace c then lexemes? rest
      else
        match _found : lexeme? (c :: rest) with
        | some (item, rest) => (lexemes? rest).map fun (items, rest) => (item :: items, rest)
        | none => none
termination_by text.length
decreasing_by
  · exact Nat.lt_succ_self _
  · exact lexeme?_shorter _found

/-! ## What is declared -/

/-- The declaration of an attribute of an element.  Its value by default, if it has one,
is given by an `α`. -/
structure AttributeDeclaration (α : Type) where
  element : List Char
  name : List Char
  isTokens : Bool
  default : Option α

/-- Give the value by default in another way. -/
def AttributeDeclaration.mapM {α β : Type} (convert? : α → Option β)
    (declaration : AttributeDeclaration α) : Option (AttributeDeclaration β) :=
  match declaration.default with
  | some value => (convert? value).map fun value => { declaration with default := some value }
  | none => some { declaration with default := none }

/-- What an item of a document type says. -/
inductive Declaration where
  /-- An entity has a text, or stands for something outside the document.  Parameter
  entities stand for parts of document types. -/
  | entity (isParameter : Bool) (name : List Char) (text : Option (List Char))
  /-- Attributes of an element have types, and values by default. -/
  | attributes (declared : List (AttributeDeclaration (List Char)))
  /-- A parameter entity stands here. -/
  | reference
  /-- Nothing that matters to documents. -/
  | inert

/-! ## Entities -/

/-- The lexemes after the identifier of something outside the document: a system
identifier, or a public and a system identifier. -/
def afterOutside? : List Lexeme → Option (List Lexeme)
  | .name keyword :: .literal identifier :: items =>
      if keyword = "SYSTEM".toList then some items
      else if keyword = "PUBLIC".toList && identifier.all isPublicIdChar then
        match items with
        | .literal _ :: items => some items
        | _ => none
      else none
  | _ => none

/-- What the lexemes after the name of an entity declare it to stand for.  Something outside
the document may have a notation, if it is no part of a document type. -/
def entityText? (isParameter : Bool) : List Lexeme → Option (Option (List Char))
  | [.literal value] => some (some value)
  | items =>
      (afterOutside? items).bind fun
        | [] => some none
        | [.name keyword, .name _] =>
            if keyword = "NDATA".toList && !isParameter then some none else none
        | _ => none

/-- Read the declaration of an entity. -/
def entity? : List Lexeme → Option Declaration
  | .mark '%' :: .name name :: items => (entityText? true items).map (.entity true name)
  | .name name :: items => (entityText? false items).map (.entity false name)
  | _ => none

/-! ## Attributes -/

/-- The name of an element or an attribute. -/
def Lexeme.name? : Lexeme → Option (List Char)
  | .name text => some text
  | .labelled text => some text
  | _ => none

/-- Whether a lexeme is a word without a mark of repetition. -/
def Lexeme.isWord : Lexeme → Bool
  | .name _ | .labelled _ | .token => true
  | _ => false

/-- Whether a lexeme is a plain name. -/
def Lexeme.isPlain : Lexeme → Bool
  | .name _ => true
  | _ => false

/-- The lexemes after a choice of values with bars between them, and its end. -/
def afterChoice? (isValue : Lexeme → Bool) : List Lexeme → Option (List Lexeme)
  | value :: .closing none :: items => if isValue value then some items else none
  | value :: .mark '|' :: items => if isValue value then afterChoice? isValue items else none
  | _ => none

/-- The types of attributes that consist of tokens. -/
def tokenTypes : List (List Char) :=
  ["ID", "IDREF", "IDREFS", "ENTITY", "ENTITIES", "NMTOKEN", "NMTOKENS"].map String.toList

/-- Take the type of an attribute off lexemes.  The flag tells whether the values are
tokens. -/
def attributeType? : List Lexeme → Option (Bool × List Lexeme)
  | .name keyword :: items =>
      if keyword = "CDATA".toList then some (false, items)
      else if tokenTypes.contains keyword then some (true, items)
      else if keyword = "NOTATION".toList then
        match items with
        | .mark '(' :: items => (afterChoice? Lexeme.isPlain items).map (true, ·)
        | _ => none
      else none
  | .mark '(' :: items => (afterChoice? Lexeme.isWord items).map (true, ·)
  | _ => none

/-- Take the value by default of an attribute off lexemes. -/
def default? : List Lexeme → Option (Option (List Char) × List Lexeme)
  | .literal value :: items => some (some value, items)
  | .keyword keyword :: items =>
      if keyword = "IMPLIED".toList || keyword = "REQUIRED".toList then some (none, items)
      else if keyword = "FIXED".toList then
        match items with
        | .literal value :: items => some (some value, items)
        | _ => none
      else none
  | _ => none

theorem afterChoice?_suffix {isValue : Lexeme → Bool} {items rest : List Lexeme}
    (found : afterChoice? isValue items = some rest) : rest <:+ items := by
  fun_induction afterChoice? isValue items with
  | case1 value items =>
      cases found
      exact (List.suffix_cons _ _).trans (List.suffix_cons value _)
  | case2 => cases found
  | case3 value items accepted ih =>
      exact ((ih found).trans (List.suffix_cons _ _)).trans (List.suffix_cons value _)
  | case4 => cases found
  | case5 => cases found

theorem attributeType?_suffix {items rest : List Lexeme} {isTokens : Bool}
    (found : attributeType? items = some (isTokens, rest)) : rest <:+ items := by
  have choice {isValue : Lexeme → Bool} {items : List Lexeme}
      (found : (afterChoice? isValue items).map (true, ·) = some (isTokens, rest)) :
      rest <:+ items := by
    obtain ⟨rest', chosen, same⟩ := Option.map_eq_some_iff.1 found
    cases same
    exact afterChoice?_suffix chosen
  unfold attributeType? at found
  split at found
  · split at found
    · cases found
      exact List.suffix_cons _ _
    · split at found
      · cases found
        exact List.suffix_cons _ _
      · split at found
        · split at found
          · exact ((choice found).trans (List.suffix_cons _ _)).trans (List.suffix_cons _ _)
          · cases found
        · cases found
  · exact (choice found).trans (List.suffix_cons _ _)
  · cases found

theorem default?_suffix {items rest : List Lexeme} {value : Option (List Char)}
    (found : default? items = some (value, rest)) : rest <:+ items := by
  unfold default? at found
  split at found
  · cases found
    exact List.suffix_cons _ _
  · split at found
    · cases found
      exact List.suffix_cons _ _
    · split at found
      · split at found
        · cases found
          exact (List.suffix_cons _ _).trans (List.suffix_cons _ _)
        · cases found
      · cases found
  · cases found

/-- Read the declarations of attributes of an element. -/
def attributeDeclarations? (element : List Char) (items : List Lexeme) :
    Option (List (AttributeDeclaration (List Char))) :=
  match items with
  | [] => some []
  | item :: items =>
      item.name?.bind fun name =>
        match _typed : attributeType? items with
        | some (isTokens, rest) =>
            match _given : default? rest with
            | some (default, rest) =>
                (attributeDeclarations? element rest).map (⟨element, name, isTokens, default⟩ :: ·)
            | none => none
        | none => none
termination_by items.length
decreasing_by
  have typed := (attributeType?_suffix _typed).length_le
  have given := (default?_suffix _given).length_le
  exact Nat.lt_succ_of_le (Nat.le_trans given typed)

/-- Read the declaration of the attributes of an element. -/
def attributeList? : List Lexeme → Option Declaration
  | item :: items =>
      item.name?.bind fun element => (attributeDeclarations? element items).map .attributes
  | [] => none

/-! ## Elements and notations -/

/-- Whether lexemes complete groups that are open.  Each group has the mark between its
members, once it is known, and the innermost group comes first.  The flag tells whether a
member comes next. -/
def completesGroups : (member : Bool) → (groups : List (Option Char)) → List Lexeme → Bool
  | true, groups, .mark '(' :: items => completesGroups true (none :: groups) items
  | true, groups, item :: items =>
      (item.name?.isSome || item = .repeated) && completesGroups false groups items
  | false, _ :: outer, .closing _ :: items =>
      if outer.isEmpty then items.isEmpty else completesGroups false outer items
  | false, between :: outer, .mark c :: items =>
      (c = ',' || c = '|') && between.all (· = c) && completesGroups true (some c :: outer) items
  | _, _, _ => false

/-- Whether lexemes complete a group of text and elements, any number of times. -/
def completesMixed : List Lexeme → Bool
  | [.closing repetition] => repetition = some '*'
  | .mark '|' :: item :: items => item.name?.isSome && completesMixed items
  | _ => false

/-- Whether lexemes describe the content of an element. -/
def describesContent : List Lexeme → Bool
  | [.name keyword] => keyword = "EMPTY".toList || keyword = "ANY".toList
  | .mark '(' :: .keyword keyword :: items =>
      keyword = "PCDATA".toList && (items = [.closing none] || completesMixed items)
  | .mark '(' :: items => completesGroups true [none] items
  | _ => false

/-- Read the declaration of an element. -/
def element? : List Lexeme → Option Declaration
  | item :: items => if item.name?.isSome && describesContent items then some .inert else none
  | [] => none

/-- Whether lexemes are a public identifier alone. -/
def isPublic : List Lexeme → Bool
  | [.name keyword, .literal identifier] =>
      keyword = "PUBLIC".toList && identifier.all isPublicIdChar
  | _ => false

/-- Read the declaration of a kind of data that is no markup. -/
def dataKind? : List Lexeme → Option Declaration
  | .name _ :: items =>
      if isPublic items || afterOutside? items = some [] then some .inert else none
  | _ => none

/-! ## Items of document types -/

/-- The keywords of declarations, with what reads their lexemes. -/
def declarationReaders : List (List Char × (List Lexeme → Option Declaration)) :=
  [("<!ENTITY".toList, entity?), ("<!ATTLIST".toList, attributeList?),
    ("<!ELEMENT".toList, element?), ("<!NOTATION".toList, dataKind?)]

/-- Take a declaration off a text. -/
def declaration? (text : List Char) : Option (Declaration × List Char) :=
  declarationReaders.findSome? fun (keyword, read?) =>
    ((after? keyword text).bind spaces?).bind fun rest =>
      (lexemes? rest).bind fun (items, rest) => (read? items).map (·, rest)

/-- Take an item off the inner part of a document type: a reference to a parameter entity, a
comment, an instruction, or a declaration. -/
def item? : List Char → Option (Declaration × List Char)
  | '%' :: rest =>
      (plainName? rest).bind fun (_, rest) => (after? [';'] rest).map (.reference, ·)
  | text => ((afterRemark? text).map (.inert, ·)).or (declaration? text)

theorem lexemes?_shorter {text rest : List Char} {items : List Lexeme}
    (found : lexemes? text = some (items, rest)) : rest.length < text.length := by
  fun_induction lexemes? text generalizing items rest with
  | case1 => cases found
  | case2 rest' =>
      cases found
      exact Nat.lt_succ_self _
  | case3 c rest' notEnd space ih => exact Nat.lt_succ_of_lt (ih found)
  | case4 c rest' notEnd visible item after taken ih =>
      obtain ⟨⟨others, rest''⟩, inner, same⟩ := Option.map_eq_some_iff.1 found
      cases same
      exact Nat.lt_trans (ih inner) (lexeme?_shorter taken)
  | case5 => cases found

theorem declaration?_shorter {text rest : List Char} {declaration : Declaration}
    (found : declaration? text = some (declaration, rest)) : rest.length < text.length := by
  obtain ⟨⟨keyword, read?⟩, -, found⟩ := List.exists_of_findSome?_eq_some found
  obtain ⟨afterSpace, spaced, found⟩ := Option.bind_eq_some_iff.1 found
  obtain ⟨afterKeyword, marked, spaced⟩ := Option.bind_eq_some_iff.1 spaced
  obtain ⟨⟨items, rest'⟩, read, found⟩ := Option.bind_eq_some_iff.1 found
  obtain ⟨declaration', -, same⟩ := Option.map_eq_some_iff.1 found
  cases same
  have first := after?_length marked
  have second : afterSpace.length ≤ afterKeyword.length := by
    rw [spaces?] at spaced
    split at spaced
    · cases spaced
      exact length_dropWhile_le isSpace afterKeyword
    · cases spaced
  have third := lexemes?_shorter read
  omega

theorem item?_shorter {text rest : List Char} {declaration : Declaration}
    (found : item? text = some (declaration, rest)) : rest.length < text.length := by
  unfold item? at found
  split at found
  · obtain ⟨⟨name, afterName⟩, named, found⟩ := Option.bind_eq_some_iff.1 found
    obtain ⟨rest', marked, same⟩ := Option.map_eq_some_iff.1 found
    cases same
    have first := plainName?_shorter named
    have second := after?_length marked
    simp only [List.length_cons, List.length_nil] at second ⊢
    omega
  · rcases Option.or_eq_some_iff.1 found with remark | ⟨-, declared⟩
    · obtain ⟨rest', taken, same⟩ := Option.map_eq_some_iff.1 remark
      cases same
      exact afterRemark?_shorter taken
    · exact declaration?_shorter declared

end VectorScene.Markup
