import Mathlib.Data.List.Nodup
import VectorScene.Proofs.Markup.Content
import VectorScene.Proofs.Markup.Text

/-!
# Plain trees

A tree is plain when its names have no label.  Its tags are read as names of the
default namespace, if there is one, and stripping the names gives the tree again.
-/

namespace VectorScene.Markup

/-! ## Attributes -/

namespace Attributes

variable {α : Type}

theorem set_fresh {attributes : Attributes α} {name : String} (fresh : name ∉ attributes.names)
    (value : α) : attributes.set name value = attributes ++ [(name, value)] := by
  induction attributes with
  | nil => rfl
  | cons pair rest ih =>
      rw [names, List.map_cons, List.mem_cons, not_or] at fresh
      rw [set, if_neg (Ne.symm fresh.1), ih fresh.2]
      rfl

theorem foldl_set {attributes pairs : Attributes α}
    (fresh : (names (attributes ++ pairs)).Nodup) :
    pairs.foldl (fun attributes pair => attributes.set pair.1 pair.2) attributes =
      attributes ++ pairs := by
  induction pairs generalizing attributes with
  | nil => exact (List.append_nil _).symm
  | cons pair rest ih =>
      have unused : pair.1 ∉ attributes.names := by
        rw [names, List.map_append] at fresh
        intro member
        exact (List.nodup_append.1 fresh).2.2 pair.1 member pair.1 List.mem_cons_self rfl
      rw [List.append_cons] at fresh ⊢
      rw [List.foldl_cons, set_fresh unused]
      exact ih fresh

/-- Attributes with names of their own are given as they are. -/
theorem ofList_eq_self {pairs : Attributes α} (fresh : pairs.names.Nodup) :
    ofList pairs = pairs :=
  foldl_set fresh

end Attributes

/-! ## Names -/

theorem isNameChar_of_isPlainName {name : List Char} (plain : isPlainName name = true) {c : Char}
    (member : c ∈ name) : isNameChar c = true := by
  cases name with
  | nil => cases member
  | cons first rest =>
      rw [isPlainName, Bool.and_eq_true, List.all_eq_true] at plain
      rcases List.mem_cons.1 member with rfl | later
      · simp [isNameChar, plain.1]
      · exact plain.2 c later

theorem not_mem_of_isPlainName {name : List Char} (plain : isPlainName name = true) {c : Char}
    (outside : isNameChar c = false) : c ∉ name := by
  intro member
  rw [isNameChar_of_isPlainName plain member] at outside
  cases outside

theorem splitAt?_eq_none {mark : Char} {text : List Char} (unmarked : mark ∉ text) :
    splitAt? [mark] text = none := by
  induction text with
  | nil => rfl
  | cons c text ih =>
      rw [List.mem_cons, not_or] at unmarked
      simp [splitAt?, after?, unmarked.1, ih unmarked.2]

theorem splitLabel_of_isPlainName {name : String} (plain : isPlainName name.toList = true) :
    splitLabel name = (none, name.toList) := by
  rw [splitLabel, splitAt?_eq_none (not_mem_of_isPlainName plain rfl)]

theorem stripFrom_eq_self {text : List Char} (noBrace : openBrace ∉ text) :
    stripFrom false text = text := by
  induction text with
  | nil => rfl
  | cons c text ih =>
      rw [List.mem_cons, not_or] at noBrace
      simp [stripFrom, Ne.symm noBrace.1, ih noBrace.2]

/-- A name without braces. -/
structure NoBraces (name : List Char) : Prop where
  opens : openBrace ∉ name
  closes : closeBrace ∉ name

theorem noBraces_of_isPlainName {name : List Char} (plain : isPlainName name = true) :
    NoBraces name :=
  ⟨not_mem_of_isPlainName plain rfl, not_mem_of_isPlainName plain rfl⟩

/-- A name without braces is stripped of nothing. -/
theorem stripName_eq_self {name : String} (noBraces : NoBraces name.toList) :
    stripName name = name := by
  rw [stripName, stripFrom_eq_self noBraces.opens, String.ofList_toList]

/-- A name without a label is stripped of nothing. -/
theorem stripName_of_isPlainName {name : String} (plain : isPlainName name.toList = true) :
    stripName name = name :=
  stripName_eq_self (noBraces_of_isPlainName plain)

theorem closesOnLine_eq_false {text : List Char} (noBrace : closeBrace ∉ text) :
    closesOnLine text = false := by
  rw [closesOnLine, List.contains_eq_mem, decide_eq_false_iff_not]
  exact fun member => noBrace ((List.takeWhile_subset _) member)

/-- A namespace on one line is stripped up to its end. -/
theorem stripFrom_namespace {uri inner : List Char} (oneLine : '\n' ∉ uri)
    (open_ : closeBrace ∉ uri) (noBraces : NoBraces inner) :
    stripFrom true (uri ++ closeBrace :: inner) = inner := by
  induction uri with
  | nil =>
      rw [List.nil_append, stripFrom, closesOnLine_eq_false noBraces.closes]
      exact stripFrom_eq_self noBraces.opens
  | cons c uri ih =>
      rw [List.mem_cons, not_or] at oneLine open_
      rw [List.cons_append, stripFrom, ih oneLine.2 open_.2]
      simp [Ne.symm open_.1]

/-- A name in a namespace, which may be empty. -/
def inNamespace (uri : List Char) (name : String) : String :=
  String.ofList (openBrace :: uri ++ closeBrace :: name.toList)

/-- A name in a namespace on one line is stripped of the namespace. -/
theorem stripName_inNamespace {uri : List Char} (oneLine : '\n' ∉ uri) (open_ : closeBrace ∉ uri)
    {name : String} (noBraces : NoBraces name.toList) :
    stripName (inNamespace uri name) = name := by
  have closes : closesOnLine (uri ++ closeBrace :: name.toList) = true := by
    have through : ∀ c ∈ uri, decide (c ≠ '\n') = true := by
      intro c member
      exact decide_eq_true fun same => oneLine (same ▸ member)
    rw [closesOnLine, List.takeWhile_append_of_pos through, List.takeWhile_cons_of_pos (by decide)]
    simp
  rw [stripName, inNamespace, String.toList_ofList, List.cons_append, stripFrom, closes,
    if_pos (by decide), stripFrom_namespace oneLine open_ noBraces, String.ofList_toList]

/-- A resolved name is stripped of its namespace. -/
theorem stripName_qualify {uri : List Char} (oneLine : '\n' ∉ uri) (open_ : closeBrace ∉ uri)
    {name : String} (noBraces : NoBraces name.toList) :
    stripName (qualify uri name.toList) = name := by
  rw [qualify]
  split
  · rw [String.ofList_toList]
    exact stripName_eq_self noBraces
  · exact stripName_inNamespace oneLine open_ noBraces

/-- Attributes whose names are stripped, each a name of its own, are stripped of nothing. -/
theorem Node.stripAttributes_eq_self {α : Type} {attributes : Attributes α}
    (stripped : ∀ pair ∈ attributes, stripName pair.1 = pair.1) (nodup : attributes.names.Nodup) :
    Node.stripAttributes attributes = attributes := by
  have kept : attributes.map (fun pair => (stripName pair.1, pair.2)) = attributes := by
    refine (List.map_congr_left fun pair member => ?_).trans (List.map_id attributes)
    exact congrArg (·, pair.2) (stripped pair member)
  rw [Node.stripAttributes]
  exact (congrArg Attributes.ofList kept).trans (Attributes.ofList_eq_self nodup)

theorem distinct_of_nodup {names : List String} (nodup : names.Nodup) : distinct names = true := by
  induction names with
  | nil => rfl
  | cons name rest ih =>
      rw [List.nodup_cons] at nodup
      simp [distinct, nodup.1, ih nodup.2]

/-! ## Trees -/

/-- Attributes with names of their own, which have no label and bind none. -/
structure PlainAttributes (attributes : Attributes String) : Prop where
  names : ∀ pair ∈ attributes, isPlainName pair.1.toList = true ∧ pair.1 ≠ "xmlns"
  nodup : attributes.names.Nodup

/-- An element whose names have no label and bind none. -/
structure Node.Plain (node : Node String) : Prop where
  tag : ∃ tag, node.tag? = some tag ∧ isPlainName tag.toList = true
  attributes : PlainAttributes node.attributes

theorem boundLabel?_of_isPlainName {name : String} (plain : isPlainName name.toList = true)
    (free : name ≠ "xmlns") : boundLabel? name = none := by
  have other : name.toList ≠ "xmlns".toList := fun same => free (String.toList_inj.1 same)
  rw [boundLabel?, splitLabel_of_isPlainName plain]
  exact if_neg other

namespace PlainAttributes

variable {attributes : Attributes String}

theorem boundLabel? (plain : PlainAttributes attributes) {pair : String × String}
    (member : pair ∈ attributes) : Markup.boundLabel? pair.1 = none :=
  boundLabel?_of_isPlainName (plain.names pair member).1 (plain.names pair member).2

theorem tail {pair : String × String} (plain : PlainAttributes (pair :: attributes)) :
    PlainAttributes attributes := by
  constructor
  · intro other member
    exact plain.names other (List.mem_cons_of_mem _ member)
  · exact (List.nodup_cons.1 plain.nodup).2

/-- Plain attributes bind nothing. -/
theorem enter (plain : PlainAttributes attributes) (scope : Scope) :
    scope.enter attributes = some scope := by
  induction attributes with
  | nil => rfl
  | cons pair rest ih =>
      have unbound := plain.boundLabel? List.mem_cons_self
      have later := ih plain.tail
      obtain ⟨name, value⟩ := pair
      rw [Scope.enter] at later ⊢
      rw [List.foldlM_cons]
      simp only [unbound]
      exact later

theorem filter_free (plain : PlainAttributes attributes) :
    attributes.filter (fun pair => (Markup.boundLabel? pair.1).isNone) = attributes := by
  refine List.filter_eq_self.2 fun pair member => ?_
  rw [plain.boundLabel? member]
  rfl

theorem mapM_attributeName? (plain : PlainAttributes attributes) (scope : Scope) :
    attributes.mapM (fun pair => (scope.attributeName? pair.1).map (·, pair.2)) =
      some attributes := by
  induction attributes with
  | nil => rfl
  | cons pair rest ih =>
      have unlabelled := splitLabel_of_isPlainName (plain.names pair List.mem_cons_self).1
      rw [List.mapM_cons, Scope.attributeName?, unlabelled, ih plain.tail]
      rfl

/-- Plain attributes keep their names. -/
theorem resolved (plain : PlainAttributes attributes) (scope : Scope) :
    scope.attributes? attributes = some attributes := by
  have distinctNames := distinct_of_nodup plain.nodup
  rw [Scope.attributes?]
  simp only [plain.filter_free, plain.mapM_attributeName? scope, Option.bind_some, distinctNames,
    Bool.and_self, if_true]

/-- Plain attributes are stripped of nothing. -/
theorem strip (plain : PlainAttributes attributes) :
    Node.stripAttributes attributes = attributes :=
  Node.stripAttributes_eq_self
    (fun pair member => stripName_of_isPlainName (plain.names pair member).1) plain.nodup

end PlainAttributes

theorem Node.Plain.of_element {tag : String} {attributes : Attributes String}
    {text tail : Option String} {children : List (Node String)}
    (plain : (Node.element tag attributes text children tail).Plain) :
    isPlainName tag.toList = true ∧ PlainAttributes attributes := by
  obtain ⟨_, tagged, isName⟩ := plain.tag
  cases tagged
  exact ⟨isName, plain.attributes⟩

/-- The names of a plain element can be written. -/
theorem Node.Plain.named {node : Node String} (plain : node.Plain) : node.Named := by
  obtain ⟨tag, tagged, isName⟩ := plain.tag
  constructor
  · exact ⟨tag, tagged, isName_of_isPlainName isName⟩
  · intro pair member
    exact isName_of_isPlainName (plain.attributes.names pair member).1

mutual

/-- A plain tree whose names are resolved is the tree again when it is stripped. -/
theorem exists_resolve? {scope : Scope} {uri : List Char}
    (default : (scope.lookup []).getD [] = uri)
    (oneLine : '\n' ∉ uri) (open_ : closeBrace ∉ uri) (node : Node String)
    (plain : ∀ inner ∈ node.preorder, inner.Plain) :
    ∃ resolved, Node.resolve? scope node = some resolved ∧ resolved.strip = node := by
  match node, plain with
  | .remark kind content tail, _ => exact ⟨_, rfl, rfl⟩
  | .element tag attributes text children tail, plain =>
      rw [Node.preorder] at plain
      obtain ⟨isName, attributesPlain⟩ := (plain _ List.mem_cons_self).of_element
      obtain ⟨inner, resolved, stripped⟩ := exists_resolveAll? default oneLine open_ children
        fun child member => plain child (List.mem_cons_of_mem _ member)
      have tagged : scope.tag? tag = some (qualify uri tag.toList) := by
        rw [Scope.tag?, splitLabel_of_isPlainName isName, ← default]
      refine ⟨.element (qualify uri tag.toList) attributes text inner tail, ?_, ?_⟩
      · simp only [Node.resolve?, attributesPlain.enter, tagged, attributesPlain.resolved, resolved,
          Option.bind_some, Option.map_some]
      · rw [Node.strip, stripName_qualify oneLine open_ (noBraces_of_isPlainName isName),
          attributesPlain.strip, stripped]

/-- A list of plain trees whose names are resolved is the list again when it is
stripped. -/
theorem exists_resolveAll? {scope : Scope} {uri : List Char}
    (default : (scope.lookup []).getD [] = uri)
    (oneLine : '\n' ∉ uri) (open_ : closeBrace ∉ uri) (nodes : List (Node String))
    (plain : ∀ inner ∈ Node.preorderAll nodes, inner.Plain) :
    ∃ resolved, Node.resolveAll? scope nodes = some resolved ∧ Node.stripAll resolved = nodes := by
  match nodes, plain with
  | [], _ => exact ⟨[], rfl, rfl⟩
  | node :: rest, plain =>
      rw [Node.preorderAll] at plain
      obtain ⟨first, firstResolved, firstStripped⟩ := exists_resolve? default oneLine open_ node
        fun inner member => plain inner (List.mem_append_left _ member)
      obtain ⟨others, resolved, stripped⟩ := exists_resolveAll? default oneLine open_ rest
        fun inner member => plain inner (List.mem_append_right _ member)
      refine ⟨first :: others, ?_, ?_⟩
      · rw [Node.resolveAll?, firstResolved, resolved]
        rfl
      · rw [Node.stripAll, firstStripped, stripped]

end

mutual

/-- A plain tree is stripped of nothing. -/
theorem strip_eq_self (node : Node String) (plain : ∀ inner ∈ node.preorder, inner.Plain) :
    node.strip = node := by
  match node, plain with
  | .remark kind content tail, _ => rfl
  | .element tag attributes text children tail, plain =>
      rw [Node.preorder] at plain
      obtain ⟨isName, attributesPlain⟩ := (plain _ List.mem_cons_self).of_element
      have inner := stripAll_eq_self children
        fun child member => plain child (List.mem_cons_of_mem _ member)
      rw [Node.strip, stripName_of_isPlainName isName, attributesPlain.strip, inner]

theorem stripAll_eq_self (nodes : List (Node String))
    (plain : ∀ inner ∈ Node.preorderAll nodes, inner.Plain) : Node.stripAll nodes = nodes := by
  match nodes, plain with
  | [], _ => rfl
  | node :: rest, plain =>
      rw [Node.preorderAll] at plain
      have first := strip_eq_self node fun inner member => plain inner (List.mem_append_left _ member)
      have others := stripAll_eq_self rest
        fun inner member => plain inner (List.mem_append_right _ member)
      rw [Node.stripAll, first, others]

end

end VectorScene.Markup
