import VectorScene.Proofs.Markup.Event
import VectorScene.Proofs.Markup.Rename

/-!
# Attributes with equal stripped names

Of attributes whose stripped names are equal the last gives the value.  An attribute in a
namespace that comes last shadows the one without a namespace.
-/

namespace VectorScene.Markup

namespace Attributes

variable {α : Type} {attributes pairs : Attributes α} {name : String} {value : α}

theorem get?_cons (pair : String × α) (rest : Attributes α) (name : String) :
    get? (pair :: rest) name = if pair.1 = name then some pair.2 else rest.get? name := by
  rw [get?, List.lookup_cons]
  by_cases same : pair.1 = name
  · rw [if_pos same, same, beq_self_eq_true]
  · rw [if_neg same, beq_eq_false_iff_ne.2 (Ne.symm same)]
    rfl

theorem get?_set (other : String) :
    (attributes.set name value).get? other =
      if name = other then some value else attributes.get? other := by
  induction attributes with
  | nil => exact get?_cons (name, value) [] other
  | cons pair rest ih =>
      rw [set]
      split
      next same =>
        subst same
        rw [get?_cons, get?_cons]
        split <;> rfl
      next different =>
        rw [get?_cons, get?_cons, ih]
        by_cases asked : pair.1 = other
        · subst asked
          rw [if_pos rfl, if_neg (Ne.symm different), if_pos rfl]
        · rw [if_neg asked, if_neg asked]

/-- The last value that is given under a name stays. -/
theorem get?_foldl_set :
    (pairs.foldl (fun attributes pair => attributes.set pair.1 pair.2) attributes).get? name =
      ((pairs.filter fun pair => pair.1 = name).getLast?.map Prod.snd).or (attributes.get? name) := by
  induction pairs generalizing attributes with
  | nil => rfl
  | cons pair rest ih =>
      rw [List.foldl_cons, ih, get?_set]
      by_cases same : pair.1 = name
      · rw [List.filter_cons_of_pos (by simpa using same), List.getLast?_cons, if_pos same]
        cases (rest.filter fun pair => pair.1 = name).getLast? <;> rfl
      · rw [List.filter_cons_of_neg (by simpa using same), if_neg same]

/-- The last attribute whose stripped name is the given one. -/
def lastGiven? (attributes : Attributes α) (name : String) : Option (String × α) :=
  (attributes.filter fun pair => stripName pair.1 = name).getLast?

/-- When names are stripped, the last attribute that has a name gives the value. -/
theorem get?_stripAttributes :
    get? (Node.stripAttributes attributes) name = (attributes.lastGiven? name).map Prod.snd := by
  have none : get? ([] : Attributes α) name = none := rfl
  rw [Node.stripAttributes, ofList, get?_foldl_set, none, Option.or_none, List.filter_map,
    List.getLast?_map, Option.map_map]
  rfl

theorem get?_of_mem (nodup : attributes.names.Nodup) (member : (name, value) ∈ attributes) :
    attributes.get? name = some value := by
  obtain ⟨before, after, rfl⟩ := List.append_of_mem member
  rw [names, List.map_append, List.nodup_append] at nodup
  refine List.lookup_eq_some_iff.2 ⟨before, after, rfl, fun pair early => ?_⟩
  have different := nodup.2.2 pair.1 (List.mem_map_of_mem early) name List.mem_cons_self
  simpa using different.symm

/-- The attributes whose names are in no namespace. -/
def unqualified (attributes : Attributes α) : Attributes α :=
  attributes.filter fun pair => stripName pair.1 = pair.1

theorem stripAttributes_unqualified (nodup : attributes.names.Nodup) :
    Node.stripAttributes attributes.unqualified = attributes.unqualified := by
  refine Node.stripAttributes_eq_self (fun pair member => ?_) ?_
  · exact of_decide_eq_true (List.mem_filter.1 member).2
  · exact nodup.sublist (List.filter_sublist.map Prod.fst)

theorem get?_unqualified (plain : stripName name = name) :
    attributes.unqualified.get? name = attributes.get? name := by
  induction attributes with
  | nil => rfl
  | cons pair rest ih =>
      rw [unqualified] at ih
      rw [unqualified, List.filter_cons, get?_cons]
      by_cases kept : stripName pair.1 = pair.1
      · rw [if_pos (decide_eq_true kept), get?_cons, ih]
      · have other : pair.1 ≠ name := fun same => kept (same ▸ plain)
        rw [if_neg (by simpa using kept), ih, if_neg other]

end Attributes

namespace Node

variable {α : Type} {node : Node α} {name : String}

/-- An attribute is shadowed when the last one that has its name, once names are stripped, is in
a namespace and has another value.  It may be missing. -/
def Shadowed (node : Node α) (name : String) : Prop :=
  ∃ pair ∈ node.attributes.lastGiven? name, pair.1 ≠ name ∧ node.get? name ≠ some pair.2

instance [DecidableEq α] (node : Node α) (name : String) : Decidable (node.Shadowed name) :=
  inferInstanceAs (Decidable (∃ pair ∈ node.attributes.lastGiven? name, _ ∧ _))

/-- A tree without the attributes whose names are in a namespace. -/
def unqualified (node : Node α) : Node α :=
  node.rename (fun tag => tag) Attributes.unqualified

/-- An attribute without a namespace keeps its value unless it is shadowed. -/
theorem get?_strip_iff (nodup : node.attributes.names.Nodup) (plain : stripName name = name) :
    node.strip.get? name = node.get? name ↔ ¬node.Shadowed name := by
  rw [Shadowed, get?, attributes_strip, Attributes.get?_stripAttributes]
  cases last : node.attributes.lastGiven? name with
  | none =>
      have missing : node.get? name = none := by
        rw [Option.eq_none_iff_forall_ne_some]
        intro value found
        have given : (name, value) ∈ node.attributes.filter fun pair => stripName pair.1 = name :=
          List.mem_filter.2 ⟨mem_of_lookup found, decide_eq_true plain⟩
        rw [List.getLast?_eq_none_iff.1 last] at given
        cases given
      rw [missing]
      refine iff_of_true rfl ?_
      rintro ⟨pair, given, -⟩
      cases given
  | some pair =>
      have member : pair ∈ node.attributes := (List.mem_filter.1 (List.mem_of_getLast? last)).1
      rw [Option.map_some]
      by_cases same : pair.1 = name
      · have found : node.get? name = some pair.2 := by
          subst same
          exact Attributes.get?_of_mem nodup member
        rw [found]
        refine iff_of_true rfl ?_
        rintro ⟨other, given, different, -⟩
        cases given
        exact different same
      · constructor
        · rintro found ⟨other, given, -, different⟩
          cases given
          exact different found.symm
        · intro unshadowed
          by_contra different
          exact unshadowed ⟨pair, rfl, same, Ne.symm different⟩

/-- Without the attributes in namespaces, all others keep their values. -/
theorem get?_strip_unqualified (nodup : node.attributes.names.Nodup)
    (plain : stripName name = name) : node.unqualified.strip.get? name = node.get? name := by
  have attributes : node.unqualified.attributes = node.attributes.unqualified :=
    attributes_rename rfl node
  rw [get?, attributes_strip, attributes, Attributes.stripAttributes_unqualified nodup,
    Attributes.get?_unqualified plain]
  rfl

end Node

end VectorScene.Markup
