import VectorScene.Proofs.Markup.Completion
import VectorScene.Proofs.Markup.Level
import VectorScene.Proofs.Markup.Rename

/-!
# Names without their namespaces

Each name of a tree is resolved in some scope of the tree.  If no namespace in a
scope goes over a line end, stripping a name that is resolved in it leaves the part
after the label.  Otherwise, the brace before the namespace may stay.
-/

namespace VectorScene.Markup

/-! ## Parts of names -/

/-- Characters of names, of which any may come first. -/
def IsNameToken (name : List Char) : Prop :=
  name ≠ [] ∧ ∀ c ∈ name, isNameChar c = true

theorem IsNameToken.noBraces {name : List Char} (token : IsNameToken name) : NoBraces name := by
  have absent {c : Char} (outside : isNameChar c = false) : c ∉ name := by
    intro member
    rw [token.2 c member] at outside
    cases outside
  exact ⟨absent rfl, absent rfl⟩

theorem isNameToken_of_isPlainName {name : List Char} (plain : isPlainName name = true) :
    IsNameToken name := by
  refine ⟨?_, fun c member => isNameChar_of_isPlainName plain member⟩
  rintro rfl
  cases plain

/-- The part of a declared name after its label need not be a name. -/
theorem Declarable.isNameToken_splitLabel {name : String} (declarable : Declarable name.toList) :
    IsNameToken (splitLabel name).2 := by
  rcases declarable with plain | labelled
  · rw [splitLabel_of_isPlainName plain]
    exact isNameToken_of_isPlainName plain
  · rw [isLabelled] at labelled
    rw [splitLabel]
    cases split : splitAt? [':'] name.toList with
    | none =>
        rw [split] at labelled
        cases labelled
    | some parts =>
        rw [split] at labelled
        simp only [Bool.and_eq_true, Bool.not_eq_true', List.all_eq_true] at labelled
        refine ⟨?_, labelled.2⟩
        intro empty
        rw [empty] at labelled
        cases labelled.1.2

/-! ## Scopes -/

namespace Scope

/-- What holds of the namespaces of a scope and of those that an element may bind holds of the
namespaces of the scope inside the element. -/
theorem forall_of_enter (known : List Char → Prop) {scope entered : Scope}
    (holds : ∀ binding ∈ scope, known binding.2) {attributes : Attributes String}
    (binds : ∀ pair ∈ attributes, ∀ label, boundLabel? pair.1 = some label →
      mayBind label pair.2.toList = true → known pair.2.toList)
    (found : scope.enter attributes = some entered) : ∀ binding ∈ entered, known binding.2 := by
  induction attributes generalizing scope with
  | nil =>
      cases found
      exact holds
  | cons pair rest ih =>
      obtain ⟨name, value⟩ := pair
      rw [List.forall_mem_cons] at binds
      rw [Scope.enter, List.foldlM_cons] at found
      obtain ⟨next, bound, found⟩ := Option.bind_eq_some_iff.1 found
      refine ih ?_ binds.2 found
      dsimp only at bound
      split at bound
      next label labelled =>
        split at bound
        next allowed =>
          cases bound
          exact List.forall_mem_cons.2 ⟨binds.1 label labelled allowed, holds⟩
        next => cases bound
      next =>
        cases bound
        exact holds

/-- A scope whose namespaces hold no closing brace, as is the case for every scope in a
document. -/
def Unbraced (scope : Scope) : Prop :=
  ∀ binding ∈ scope, closeBrace ∉ binding.2

/-- A scope whose namespaces can be stripped of a name. -/
def Strippable (scope : Scope) : Prop :=
  ∀ binding ∈ scope, '\n' ∉ binding.2 ∧ closeBrace ∉ binding.2

theorem Strippable.unbraced {scope : Scope} (strippable : scope.Strippable) : scope.Unbraced :=
  fun binding member => (strippable binding member).2

theorem closeBrace_not_mem_of_mayBind {label uri : List Char} (allowed : mayBind label uri = true) :
    closeBrace ∉ uri := by
  rw [mayBind, Bool.and_eq_true, Bool.not_eq_true', List.contains_eq_mem,
    decide_eq_false_iff_not] at allowed
  exact allowed.2

section

variable {scope entered : Scope} {attributes : Attributes String}

theorem Unbraced.enter (unbraced : scope.Unbraced)
    (found : scope.enter attributes = some entered) : entered.Unbraced :=
  forall_of_enter (closeBrace ∉ ·) unbraced (fun _ _ _ _ => closeBrace_not_mem_of_mayBind) found

/-- Entering an element keeps a scope strippable, if the namespaces that the element
binds are on one line each. -/
theorem Strippable.enter (strippable : scope.Strippable)
    (oneLine : ∀ pair ∈ attributes, (boundLabel? pair.1).isSome → '\n' ∉ pair.2.toList)
    (found : scope.enter attributes = some entered) : entered.Strippable := by
  refine forall_of_enter (fun uri => '\n' ∉ uri ∧ closeBrace ∉ uri) strippable
    (fun pair member label labelled allowed => ?_) found
  have line := oneLine pair member (by rw [labelled]; rfl)
  exact ⟨line, closeBrace_not_mem_of_mayBind allowed⟩

end

variable {scope : Scope}

theorem Strippable.lookup (strippable : scope.Strippable) {label uri : List Char}
    (found : scope.lookup label = some uri) : '\n' ∉ uri ∧ closeBrace ∉ uri :=
  strippable _ (mem_of_lookup found)

/-! ## Names -/

theorem isPlainName_stripName_qualify {uri inner : List Char}
    (known : '\n' ∉ uri ∧ closeBrace ∉ uri) (plain : isPlainName inner = true) :
    isPlainName (stripName (qualify uri inner)).toList = true := by
  have plain' : isPlainName (String.ofList inner).toList = true := by rwa [String.toList_ofList]
  have stripped := stripName_qualify known.1 known.2 (noBraces_of_isPlainName plain')
  rw [String.toList_ofList] at stripped
  rw [stripped]
  exact plain'

theorem Strippable.isPlainName_tag? (strippable : scope.Strippable) {name resolved : String}
    (qualified : Qualified name.toList) (found : scope.tag? name = some resolved) :
    isPlainName (stripName resolved).toList = true := by
  have plain := qualified.isPlainName_splitLabel
  rw [Scope.tag?] at found
  split at found
  next label inner split =>
    rw [split] at plain
    obtain ⟨uri, bound, rfl⟩ := Option.map_eq_some_iff.1 found
    exact isPlainName_stripName_qualify (strippable.lookup bound) plain
  next inner split =>
    cases found
    rw [split] at plain
    apply isPlainName_stripName_qualify _ plain
    cases bound : scope.lookup [] with
    | none => simp
    | some uri => exact strippable.lookup bound

theorem eq_toList_of_splitLabel {name : String} {inner : List Char}
    (split : splitLabel name = (none, inner)) : inner = name.toList := by
  rw [splitLabel] at split
  split at split
  · cases split
  · cases split
    rfl

/-- The name of an attribute is stripped to the part after its label, unless its namespace goes
over a line end and leaves the brace before it. -/
theorem Unbraced.stripName_attributeName? (unbraced : scope.Unbraced) {name resolved : String}
    (noBraces : NoBraces (splitLabel name).2) (found : scope.attributeName? name = some resolved) :
    (stripName resolved).toList = (splitLabel name).2 ∨
      (∃ binding ∈ scope, '\n' ∈ binding.2) ∧ openBrace ∈ (stripName resolved).toList := by
  rw [Scope.attributeName?] at found
  split at found
  next label inner split =>
    rw [split] at noBraces ⊢
    obtain ⟨uri, bound, rfl⟩ := Option.map_eq_some_iff.1 found
    have member := mem_of_lookup bound
    have same : inner = (String.ofList inner).toList := String.toList_ofList.symm
    by_cases lines : '\n' ∈ uri
    · have filled : ¬uri.isEmpty = true := by
        intro empty
        rw [List.isEmpty_iff.1 empty] at lines
        cases lines
      obtain ⟨rest, kept⟩ :=
        exists_stripName_inNamespace lines (unbraced _ member) (String.ofList inner)
      rw [inNamespace, ← same] at kept
      rw [qualify, if_neg filled, kept]
      exact .inr ⟨⟨_, member, lines⟩, List.mem_cons_self⟩
    · rw [same] at noBraces
      have stripped := stripName_qualify lines (unbraced _ member) noBraces
      rw [← same] at stripped
      rw [stripped]
      exact .inl same.symm
  next inner split =>
    cases found
    have whole := eq_toList_of_splitLabel split
    rw [split, whole] at noBraces ⊢
    rw [stripName_eq_self noBraces]
    exact .inl rfl

theorem Strippable.stripName_attributeName? (strippable : scope.Strippable)
    {name resolved : String} (noBraces : NoBraces (splitLabel name).2)
    (found : scope.attributeName? name = some resolved) :
    (stripName resolved).toList = (splitLabel name).2 := by
  rcases strippable.unbraced.stripName_attributeName? noBraces found with stripped | ⟨lines, -⟩
  · exact stripped
  · obtain ⟨binding, member, line⟩ := lines
    exact absurd line (strippable binding member).1

/-- A resolved attribute is one of the attributes that bind no label. -/
theorem exists_of_attributes? {attributes resolved : Attributes String}
    (found : scope.attributes? attributes = some resolved) :
    ∀ pair ∈ resolved, ∃ name, (name, pair.2) ∈ attributes ∧ boundLabel? name = none ∧
      scope.attributeName? name = some pair.1 := by
  obtain ⟨converted, named, found⟩ := Option.bind_eq_some_iff.1 found
  split at found
  · cases found
    refine forall_of_mapM named fun original member pair resolves => ?_
    obtain ⟨name, known, rfl⟩ := Option.map_eq_some_iff.1 resolves
    obtain ⟨inside, free⟩ := List.mem_filter.1 member
    exact ⟨original.1, inside, Option.isNone_iff_eq_none.1 free, known⟩
  · cases found

end Scope

/-! ## Trees -/

/-- Two nodes of which the second has the names of the first, resolved in a scope. -/
structure Scope.Resolves (scope : Scope) (original resolved : Node String) : Prop where
  tag : original.tag?.map scope.tag? = resolved.tag?.map some
  attributes : scope.attributes? original.attributes = some resolved.attributes

namespace Node

section

variable {scope : Scope} {node : Node String} {rest : List (Node String)}

/-- What resolving an element does, when it succeeds. -/
theorem exists_of_resolve?_element {tag : String} {attributes : Attributes String}
    {text tail : Option String} {resolved : Node String}
    (found : resolve? scope (.element tag attributes text rest tail) = some resolved) :
    ∃ entered name pairs inner, scope.enter attributes = some entered ∧
      entered.tag? tag = some name ∧ entered.attributes? attributes = some pairs ∧
      resolveAll? entered rest = some inner ∧
      resolved = .element name pairs text inner tail := by
  obtain ⟨entered, enters, found⟩ := Option.bind_eq_some_iff.1 found
  obtain ⟨name, named, found⟩ := Option.bind_eq_some_iff.1 found
  obtain ⟨pairs, given, found⟩ := Option.bind_eq_some_iff.1 found
  obtain ⟨inner, resolves, same⟩ := Option.map_eq_some_iff.1 found
  exact ⟨entered, name, pairs, inner, enters, named, given, resolves, same.symm⟩

theorem exists_of_resolveAll?_cons {resolved : List (Node String)}
    (found : resolveAll? scope (node :: rest) = some resolved) :
    ∃ first others, resolve? scope node = some first ∧ resolveAll? scope rest = some others ∧
      resolved = first :: others := by
  obtain ⟨first, resolves, found⟩ := Option.bind_eq_some_iff.1 found
  obtain ⟨others, following, same⟩ := Option.map_eq_some_iff.1 found
  exact ⟨first, others, resolves, following, same.symm⟩

end

section

variable {reached : Scope → Prop}

mutual

/-- Each node of a resolved tree is a node of the tree resolved in some scope.  What
holds of the outer scope, and is kept by entering elements of the tree, holds of that
scope. -/
theorem exists_origin {scope : Scope} (start : reached scope) (node : Node String)
    (enter : ∀ inner ∈ node.preorder, ∀ outer entered, reached outer →
      outer.enter inner.attributes = some entered → reached entered)
    {resolved : Node String} (found : resolve? scope node = some resolved) :
    ∀ inner ∈ resolved.preorder, ∃ original ∈ node.preorder, ∃ within,
      reached within ∧ within.Resolves original inner := by
  match node, enter with
  | .remark kind content tail, _ =>
      cases found
      exact List.forall_mem_singleton.2 ⟨_, List.mem_singleton_self _, scope, start, rfl, rfl⟩
  | .element tag attributes text children tail, enter =>
      rw [preorder, List.forall_mem_cons] at enter
      obtain ⟨entered, name, pairs, inner, enters, named, given, resolves, rfl⟩ :=
        exists_of_resolve?_element found
      -- The element and its children are resolved in the scope that the element enters.
      have holds := enter.1 scope entered start enters
      refine List.forall_mem_cons.2 ⟨?_, ?_⟩
      · exact ⟨_, List.mem_cons_self, entered, holds, congrArg some named, given⟩
      · intro child member
        obtain ⟨original, inside, known⟩ :=
          exists_originAll holds children enter.2 resolves child member
        exact ⟨original, List.mem_cons_of_mem _ inside, known⟩

theorem exists_originAll {scope : Scope} (start : reached scope) (nodes : List (Node String))
    (enter : ∀ inner ∈ preorderAll nodes, ∀ outer entered, reached outer →
      outer.enter inner.attributes = some entered → reached entered)
    {resolved : List (Node String)} (found : resolveAll? scope nodes = some resolved) :
    ∀ inner ∈ preorderAll resolved, ∃ original ∈ preorderAll nodes, ∃ within,
      reached within ∧ within.Resolves original inner := by
  match nodes, enter with
  | [], _ =>
      cases found
      exact List.forall_mem_nil _
  | node :: rest, enter =>
      rw [preorderAll, List.forall_mem_append] at enter
      obtain ⟨first, others, resolves, following, rfl⟩ := exists_of_resolveAll?_cons found
      refine List.forall_mem_append.2 ⟨?_, ?_⟩
      · intro inner member
        obtain ⟨original, inside, known⟩ := exists_origin start node enter.1 resolves inner member
        exact ⟨original, List.mem_append_left _ inside, known⟩
      · intro inner member
        obtain ⟨original, inside, known⟩ :=
          exists_originAll start rest enter.2 following inner member
        exact ⟨original, List.mem_append_right _ inside, known⟩

end

end

mutual

theorem texts_resolve? {scope : Scope} (node : Node String) {resolved : Node String}
    (found : resolve? scope node = some resolved) : resolved.texts = node.texts := by
  match node with
  | .remark kind content tail =>
      cases found
      rfl
  | .element tag attributes text children tail =>
      obtain ⟨entered, name, pairs, inner, -, -, -, resolves, rfl⟩ :=
        exists_of_resolve?_element found
      rw [texts, texts, textsAll_resolveAll? children resolves]

theorem textsAll_resolveAll? {scope : Scope} (nodes : List (Node String))
    {resolved : List (Node String)} (found : resolveAll? scope nodes = some resolved) :
    textsAll resolved = textsAll nodes := by
  match nodes with
  | [] =>
      cases found
      rfl
  | node :: rest =>
      obtain ⟨first, others, resolves, following, rfl⟩ := exists_of_resolveAll?_cons found
      rw [textsAll, textsAll, texts_resolve? node resolves, textsAll_resolveAll? rest following]

end

mutual

theorem texts_strip (node : Node String) : node.strip.texts = node.texts := by
  match node with
  | .element tag attributes text children tail => rw [strip, texts, texts, textsAll_strip children]
  | .remark kind content tail => rfl

theorem textsAll_strip (nodes : List (Node String)) :
    textsAll (stripAll nodes) = textsAll nodes := by
  match nodes with
  | [] => rfl
  | node :: rest => rw [stripAll, textsAll, textsAll, texts_strip node, textsAll_strip rest]

end

end Node

end VectorScene.Markup
