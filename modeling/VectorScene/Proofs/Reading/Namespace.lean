import VectorScene.Proofs.Markup.Idempotent
import VectorScene.Proofs.Markup.Shadow
import VectorScene.Proofs.Reading.Frame

/-!
# Readings and namespaces

A reading does not see the namespace of the tags, unless it spans lines.  It does not see
attributes in namespaces either, unless one of them shadows an attribute that is read.
-/

namespace VectorScene.Reading

open VectorScene.Markup

/-! ## Tags in a namespace -/

/-- A tree whose tags are all in a namespace. -/
def qualifyTags (uri : List Char) (tree : Node String) : Node String :=
  tree.rename (inNamespace uri) fun attributes => attributes

section

variable {uri : List Char} {tree : Node String}

theorem unseen_qualifyTags (oneLine : '\n' ∉ uri) (open_ : closeBrace ∉ uri)
    (noBraces : ∀ node ∈ tree.preorder, ∀ tag ∈ node.tag?, NoBraces tag.toList) :
    Unseen (qualifyTags uri) tree where
  preorder := Node.preorder_rename
  tag node member := by
    rw [qualifyTags, Node.tag?_strip, Node.tag?_strip, Node.tag?_rename, Option.map_map]
    refine Option.map_congr fun tag tagged => ?_
    have plain := noBraces node member tag tagged
    rw [Function.comp_apply, stripName_inNamespace oneLine open_ plain, stripName_eq_self plain]
  value node _ name _ := by
    rw [Node.get?, Node.get?, Node.attributes_strip, Node.attributes_strip, qualifyTags,
      Node.attributes_rename rfl]

/-- No element with a tag in a namespace that spans lines is a shape or a group. -/
theorem tag_qualifyTags (lines : '\n' ∈ uri) (open_ : closeBrace ∉ uri) {tag : String}
    (noBraces : NoBraces tag.toList) : ∀ node ∈ (qualifyTags uri tree).preorder,
      node.strip.tag? ≠ some tag := by
  rw [qualifyTags, Node.preorder_rename]
  intro node member
  obtain ⟨old, -, rfl⟩ := List.mem_map.1 member
  rw [Node.tag?_strip, Node.tag?_rename]
  intro tagged
  obtain ⟨name, named, stripped⟩ := Option.map_eq_some_iff.1 tagged
  obtain ⟨inner, -, rfl⟩ := Option.map_eq_some_iff.1 named
  obtain ⟨rest, kept⟩ := exists_stripName_inNamespace lines open_ inner
  have opens := noBraces.opens
  rw [← stripped, kept] at opens
  exact opens List.mem_cons_self

/-- Names without braces are stripped of a namespace unless it spans lines.  So a tree is read
as if its tags had no namespace, and nothing is read of it if the namespace spans lines. -/
theorem ofTree_qualifyTags (open_ : closeBrace ∉ uri) :
    (∀ name : String, NoBraces name.toList →
      (stripName (inNamespace uri name) = name ↔ '\n' ∉ uri)) ∧
    ∀ tree : Node String,
      (∀ node ∈ tree.preorder, ∀ tag ∈ node.tag?, NoBraces tag.toList) →
      ∀ settings : Settings,
        ('\n' ∉ uri → ∀ groupId,
          ofTree settings groupId (qualifyTags uri tree) = ofTree settings groupId tree) ∧
        ('\n' ∈ uri →
          ofTree settings none (qualifyTags uri tree) = ⟨[], .ok []⟩ ∧
          ∀ id, ofTree settings (some id) (qualifyTags uri tree) =
            if settings.strict.isOn then ⟨[], .error (.defect (.missingGroup id))⟩
            else ⟨[.missingGroup id], .ok []⟩) := by
  refine ⟨fun name => stripName_inNamespace_iff open_, fun tree noBraces settings => ⟨?_, ?_⟩⟩
  · intro oneLine groupId
    exact (unseen_qualifyTags oneLine open_ noBraces).ofTree_eq settings groupId
  · intro lines
    constructor
    · have none : candidates (qualifyTags uri tree).strip = [] := by
        rw [candidates, List.flatMap_eq_nil_iff]
        intro kind _
        rw [List.map_eq_nil_iff, List.filter_eq_nil_iff, Node.preorder_strip]
        intro node member
        obtain ⟨old, inside, rfl⟩ := List.mem_map.1 member
        have plain : NoBraces kind.tag.toList := by cases kind <;> exact ⟨by decide, by decide⟩
        simpa using tag_qualifyTags lines open_ plain old inside
      rw [ofTree]
      simp only [none]
      rfl
    · intro id
      refine ofTree_of_missing settings fun node member isGroup => ?_
      exact tag_qualifyTags lines open_ ⟨by decide, by decide⟩ node member isGroup.1

end

/-- A circle in a group, and a comment. -/
def groupedCircle : Node String :=
  .element "svg" [] none
    [.element "g" [("id", "a")] none [circleNode "3"] none, .remark .comment "circle" none] none

theorem ofTree_qualifyTags_lines :
    let settings : Settings := ⟨⟨400, 300, by decide, by decide⟩, .flag false, .absent, .absent⟩
    let circle : ReadShape := .circle (.integer 0) (.integer 0) (.integer 3) 0x993399FF
    ofTree settings (some "a") (qualifyTags "urn:\x7bx".toList groupedCircle) =
        ⟨[], .ok [circle]⟩ ∧
      ofTree settings (some "a") (qualifyTags "a\nb".toList groupedCircle) =
        ⟨[.missingGroup "a"], .ok []⟩ ∧
      ofTree settings none (qualifyTags "a\nb".toList groupedCircle) = ⟨[], .ok []⟩ := by
  intro settings circle
  have noBraces : ∀ node ∈ groupedCircle.preorder, ∀ tag ∈ node.tag?, NoBraces tag.toList := by
    intro node member tag tagged
    have known : tag ∈ groupedCircle.preorder.filterMap Node.tag? :=
      List.mem_filterMap.2 ⟨node, member, tagged⟩
    have plain : ∀ tag ∈ groupedCircle.preorder.filterMap Node.tag?,
        openBrace ∉ tag.toList ∧ closeBrace ∉ tag.toList := by
      decide
    exact ⟨(plain tag known).1, (plain tag known).2⟩
  have read : ofTree settings (some "a") groupedCircle = ⟨[], .ok [circle]⟩ := by decide +kernel
  have openFirst : closeBrace ∉ "urn:\x7bx".toList := by decide
  have openSecond : closeBrace ∉ "a\nb".toList := by decide
  obtain ⟨-, oneLine⟩ := ofTree_qualifyTags openFirst
  obtain ⟨-, lines⟩ := ofTree_qualifyTags openSecond
  obtain ⟨same, -⟩ := oneLine groupedCircle noBraces settings
  obtain ⟨-, nothing⟩ := lines groupedCircle noBraces settings
  obtain ⟨whole, group⟩ := nothing (by decide)
  exact ⟨(same (by decide) (some "a")).trans read, group "a", whole⟩

/-! ## Attributes in namespaces -/

/-- The names that a reading looks at are in no namespace. -/
theorem stripName_of_inspects {node : Node String} {name : String} (inspects : Inspects node name) :
    stripName name = name := by
  apply stripName_eq_self
  cases inspects with
  | @geometry kind name _ member =>
      have plain : ∀ kind ∈ Kind.all, ∀ name ∈ kind.geometry,
          openBrace ∉ name.toList ∧ closeBrace ∉ name.toList := by
        decide
      have known : kind ∈ Kind.all := by cases kind <;> decide
      exact ⟨(plain kind known name member).1, (plain kind known name member).2⟩
  | style _ => exact ⟨by decide, by decide⟩
  | id _ => exact ⟨by decide, by decide⟩

/-- An attribute without a namespace keeps its value when names are stripped, unless it is
shadowed.  So attributes in namespaces change what is read of a shape element only by shadowing
its geometry or its style, and a reading does not see them where they shadow nothing that it
looks at. -/
theorem ofTree_unqualified {tree : Node String}
    (distinct : ∀ node ∈ tree.preorder, node.attributes.names.Nodup) :
    (∀ node ∈ tree.preorder, ∀ name, stripName name = name →
      (node.strip.get? name = node.get? name ↔ ¬node.Shadowed name)) ∧
    (∀ node ∈ tree.preorder, ∀ kind : Kind, node.strip.tag? = some kind.tag →
      (inspected (kind, node.unqualified.strip) = inspected (kind, node.strip) ↔
        ∀ name ∈ "style" :: kind.geometry, ¬node.Shadowed name)) ∧
    ((∀ node ∈ tree.preorder, ∀ name, Inspects node name → ¬node.Shadowed name) →
      ∀ settings groupId,
        ofTree settings groupId tree.unqualified = ofTree settings groupId tree) := by
  have kept (node : Node String) (member : node ∈ tree.preorder) (name : String)
      (plain : stripName name = name) :
      node.unqualified.strip.get? name = node.strip.get? name ↔ ¬node.Shadowed name := by
    rw [← Node.get?_strip_iff (distinct node member) plain, eq_comm,
      Node.get?_strip_unqualified (distinct node member) plain]
  refine ⟨fun node member name => Node.get?_strip_iff (distinct node member), ?_, ?_⟩
  · intro node member kind tagged
    rw [List.forall_mem_cons, inspected, inspected, Prod.mk.injEq, Prod.mk.injEq, List.map_inj_left]
    have style := kept node member "style" (stripName_of_inspects (.style tagged))
    have geometry : (∀ name ∈ kind.geometry,
          node.unqualified.strip.get? name = node.strip.get? name) ↔
        ∀ name ∈ kind.geometry, ¬node.Shadowed name :=
      forall₂_congr fun name among =>
        kept node member name (stripName_of_inspects (.geometry tagged among))
    rw [geometry, style, and_comm (a := ¬_)]
    exact and_iff_right rfl
  · intro unshadowed settings groupId
    suffices unseen : Unseen Node.unqualified tree from unseen.ofTree_eq settings groupId
    refine ⟨Node.preorder_rename, fun node _ => ?_, fun node member name seen => ?_⟩
    · rw [Node.tag?_strip, Node.tag?_strip, Node.unqualified, Node.tag?_rename, Option.map_id']
    · exact (kept node member name (stripName_of_inspects seen)).2 (unshadowed node member name seen)

/-- A circle with two centers, one of them in a namespace. -/
def centeredTwice (first second : String × String) : Node String :=
  .element "circle" [first, second, ("cy", "2"), ("r", "3"), ("style", "stroke:#993399")] none []
    none

/-- A center in a namespace has no effect before the other one, and replaces it after it. -/
theorem ofTree_unqualified_centers :
    let early := centeredTwice ("{urn:p}cx", "5") ("cx", "1")
    let late := centeredTwice ("cx", "1") ("{urn:p}cx", "5")
    (∀ settings groupId, ofTree settings groupId early.unqualified =
        ofTree settings groupId early) ∧
      late.strip.get? "cx" ≠ late.get? "cx" ∧
      inspected (.circle, late.unqualified.strip) ≠ inspected (.circle, late.strip) := by
  intro early late
  have distinctEarly : ∀ node ∈ early.preorder, node.attributes.names.Nodup :=
    List.forall_mem_singleton.2 (by decide)
  have distinctLate : ∀ node ∈ late.preorder, node.attributes.names.Nodup :=
    List.forall_mem_singleton.2 (by decide)
  obtain ⟨-, -, unseen⟩ := ofTree_unqualified distinctEarly
  obtain ⟨shadows, changes, -⟩ := ofTree_unqualified distinctLate
  have shadowed : late.Shadowed "cx" := by decide +kernel
  refine ⟨unseen fun node member name seen => ?_, fun same => ?_, fun same => ?_⟩
  · rw [List.mem_singleton.1 member]
    have none : ∀ kind ∈ Kind.all, ∀ name ∈ kind.geometry, ¬early.Shadowed name := by decide +kernel
    cases seen with
    | @geometry kind name _ among => exact none kind (by cases kind <;> decide) name among
    | style _ => decide +kernel
    | id _ => decide +kernel
  · exact (shadows late List.mem_cons_self "cx" (by decide)).1 same shadowed
  · exact (changes late List.mem_cons_self .circle (by decide)).1 same "cx" (by decide) shadowed

/-! ## Stripped trees -/

/-- A stripped tree has no namespace on any line of its names, its attributes have the stripped
names in the order of the first occurrence, and stripping it again changes nothing.  So it is read
like the tree itself, and a document like its tree with resolved names. -/
theorem ofTree_strip (tree : Node String) :
    (∀ node ∈ tree.strip.preorder,
      (∀ tag ∈ node.tag?, ¬HasNamespace tag.toList) ∧
        ∀ name ∈ node.attributes.names, ¬HasNamespace name.toList) ∧
    tree.strip.preorder = tree.preorder.map Node.strip ∧
    (∀ node ∈ tree.preorder,
      node.strip.attributes.names.Nodup ∧
        node.strip.attributes.names = (node.attributes.names.map stripName).eraseDups) ∧
    tree.strip.strip = tree.strip ∧
    (∀ settings groupId, ofTree settings groupId tree.strip = ofTree settings groupId tree) ∧
    ∀ text : String, document? text.toList = some tree →
      Node.parse text = .ok tree.strip ∧
        ∀ settings groupId, ofText settings groupId text = ofTree settings groupId tree := by
  have again : ∀ settings groupId,
      ofTree settings groupId tree.strip = ofTree settings groupId tree := by
    intro settings groupId
    simp only [ofTree, Node.strip_strip]
  refine ⟨?_, Node.preorder_strip tree, ?_, Node.strip_strip tree, again, ?_⟩
  · rw [Node.preorder_strip]
    intro node member
    obtain ⟨old, -, rfl⟩ := List.mem_map.1 member
    exact Node.not_hasNamespace_strip old
  · intro node _
    exact ⟨Node.nodup_attributes_strip node, Node.names_attributes_strip node⟩
  · intro text found
    have parsed : Node.parse text = .ok tree.strip := by rw [Node.parse, found]
    refine ⟨parsed, fun settings groupId => ?_⟩
    rw [ofText, parsed, ← again settings groupId]
    rfl

/-- A circle in a namespace, with one center that is in the namespace too and one that is not. -/
theorem ofTree_strip_centers :
    let tree : Node String :=
      .element "\x7burn:p\x7dcircle" [("\x7burn:p\x7dcx", "1"), ("r", "3"), ("cx", "2")] none []
        none
    let text := "<p:circle xmlns:p='urn:p' p:cx='1' r='3' cx='2'/>"
    tree.strip.attributes.names = ["cx", "r"] ∧
      (∀ settings groupId, ofTree settings groupId tree.strip = ofTree settings groupId tree) ∧
      ∀ settings groupId, ofText settings groupId text = ofTree settings groupId tree := by
  intro tree text
  have found : document? text.toList = some tree := by decide +kernel
  obtain ⟨-, -, names, -, again, documents⟩ := ofTree_strip tree
  refine ⟨?_, again, (documents text found).2⟩
  rw [(names tree List.mem_cons_self).2]
  decide +kernel

end VectorScene.Reading
