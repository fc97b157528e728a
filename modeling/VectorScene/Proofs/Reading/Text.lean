import VectorScene.Proofs.Markup.RoundTrip
import VectorScene.Proofs.Reading.Element

/-!
# Reading through text

A plain tree is read as it would be from its text, however the text is indented.
-/

namespace VectorScene.Reading

open VectorScene.Markup

/-- A plain tree can be written as a text with any indentation, and what is read from
the text is what is read from the tree: the same shapes, warnings and faults. -/
theorem ofText_of_tree {tree : Node String} (plain : ∀ inner ∈ tree.preorder, inner.Plain)
    (legal : tree.Legal) (spaces : OnlySpace tree.tail) {indent : Option Indent}
    (tab : ∀ tab, indent = some (.text tab) → LegalText tab.toList) :
    ∃ text, tree.render indent = .ok text ∧
      ∀ settings groupId, ofText settings groupId text = ofTree settings groupId tree := by
  obtain ⟨resolved, found, stripped⟩ := Node.exists_resolve_outermost plain
  -- Indenting changes texts, so names are resolved in the tree without its texts.
  have known : Node.resolve? .outermost tree.bare = some resolved.bare := by
    rw [Node.bare, Node.resolve?_mapText, found]
    rfl
  have elements : resolved.bare.strip = tree.bare := by
    rw [Node.bare, Node.strip_mapText, stripped]
    rfl
  obtain ⟨text, read, rendered, parsed, same⟩ := Node.exists_parse_render
    (fun inner member => (plain inner member).named) legal spaces known (legalText_tab tab)
  refine ⟨text, rendered, ?_⟩
  intro settings groupId
  rw [ofText, parsed, Run.ofExcept_ok_bind, ← ofTree_bare settings groupId tree, ← elements, ← same,
    ofTree_bare]

/-- A drawing with a wrapped shape, a shape that cannot be read, and an identifier that
has to be escaped. -/
def wrappedTree : Node String :=
  .element "svg" [("width", "400")] none
    [.element "g" [("id", "a<\n\"")] (some "\r]]>")
       [.element "circle" [("cx", "1"), ("cy", "2"), ("r", "3"), ("style", "stroke:#993399")] none []
          (some "&amp;")]
       none,
     .element "rect" [("x", "1")] none [] (some "")]
    none

theorem ofText_of_tree_wrapped :
    let settings : Settings := ⟨⟨400, 400, by decide, by decide⟩, .absent, .flag false, .absent⟩
    ∃ text, wrappedTree.render (some (.text "\t<")) = .ok text ∧
      ofText settings none text =
        ⟨[.skipped .rect (.missingAttribute "y")],
          .ok [.circle (.integer 1) (.integer 2) (.integer 3) 0x993399FF]⟩ ∧
      ofText settings (some "a<\n\"") text =
        ⟨[], .ok [.circle (.integer 1) (.integer 2) (.integer 3) 0x993399FF]⟩ := by
  intro settings
  have plain : ∀ inner ∈ wrappedTree.preorder, inner.Plain := by
    refine List.forall_mem_cons.2 ⟨⟨⟨"svg", rfl, by decide⟩, by decide, by decide⟩, ?_⟩
    refine List.forall_mem_cons.2 ⟨⟨⟨"g", rfl, by decide⟩, by decide, by decide⟩, ?_⟩
    refine List.forall_mem_cons.2 ⟨⟨⟨"circle", rfl, by decide⟩, by decide, by decide⟩, ?_⟩
    exact List.forall_mem_singleton.2 ⟨⟨"rect", rfl, by decide⟩, by decide, by decide⟩
  have legal : wrappedTree.Legal := by
    constructor
    · decide +kernel
    · decide +kernel
  have tab : ∀ tab, some (.text "\t<") = some (Indent.text tab) → LegalText tab.toList := by
    rintro _ ⟨⟩
    decide
  obtain ⟨text, rendered, same⟩ := ofText_of_tree plain legal onlySpace_none tab
  refine ⟨text, rendered, ?_, ?_⟩
  · rw [same]
    decide +kernel
  · rw [same]
    decide +kernel

end VectorScene.Reading
