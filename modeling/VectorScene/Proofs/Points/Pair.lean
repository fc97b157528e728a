import VectorScene.Proofs.Points.Scan

/-!
# Lists of one point

Two texts with a comma between them list a point exactly when both are coordinates, as long
as neither holds a separator of its own.
-/

namespace VectorScene.Points

open VectorScene.Text

/-- A text without white space and commas. -/
def Solid (text : List Char) : Prop :=
  ∀ c ∈ text, isBlank c = false ∧ c ≠ ','

instance : DecidablePred Solid :=
  fun text => List.decidableBAll (fun c => isBlank c = false ∧ c ≠ ',') text

theorem CoordinateForm.not_mem {token : List Char} (form : CoordinateForm token) {c : Char}
    (inert : Number.isNumeral c = false) : c ∉ token := by
  intro member
  rw [form.isNumeral c member] at inert
  cases inert

section

variable {x y : List Char} {numberX numberY : Number}

theorem Solid.visible (solidX : Solid x) (solidY : Solid y) :
    ∀ c ∈ x ++ ',' :: y, isBlank c = false := by
  rw [List.forall_mem_append, List.forall_mem_cons]
  exact ⟨fun c member => (solidX c member).1, by decide, fun c member => (solidY c member).1⟩

/-- Two coordinates with a comma between them list a point. -/
theorem cut_pair (formX : CoordinateForm x) (formY : CoordinateForm y) :
    cut (x ++ ',' :: y) = ⟨[], [(x, [',']), (y, [])]⟩ ∧ (cut (x ++ ',' :: y)).Lists := by
  have comma : Separates ([] ++ ',' :: []) := .comma rfl rfl
  have lists : Cut.Lists ⟨[], [(x, [',']), (y, [])]⟩ := by
    refine ⟨rfl, List.forall_mem_singleton.2 comma, ?_, ⟨1, rfl⟩⟩
    rintro _ ⟨⟩
    rfl
  have apart : Cut.Apart ⟨[], [(x, [',']), (y, [])]⟩ := by
    refine ⟨List.forall_mem_cons.2 ⟨formX, List.forall_mem_singleton.2 formY⟩, ?_⟩
    exact List.forall_mem_singleton.2 (List.cons_ne_nil _ _)
  have joined : Cut.join ⟨[], [(x, [',']), (y, [])]⟩ = x ++ ',' :: y := by
    simp [Cut.join]
  have found := scans_iff.1 (apart.scans lists)
  rw [joined] at found
  exact ⟨found.symm, found ▸ lists⟩

/-- A list of one point is two coordinates with a comma between them. -/
theorem eq_of_lists {found : Cut} (lists : found.Lists)
    (forms : ∀ token ∈ found.tokens, CoordinateForm token) {first second : List Char}
    (tokens : found.tokens = [first, second]) (solidX : Solid x) (solidY : Solid y)
    (same : found.join = x ++ ',' :: y) : first = x ∧ second = y := by
  obtain ⟨lead, parts⟩ := found
  obtain ⟨⟨first, gap⟩, rest, rfl, rfl, others⟩ := List.map_eq_cons_iff.1 tokens
  obtain ⟨⟨second, last⟩, rest, rfl, rfl, none⟩ := List.map_eq_cons_iff.1 others
  obtain rfl := List.map_eq_nil_iff.1 none
  rw [Cut.tokens, List.map_cons, List.forall_mem_cons, List.map_singleton,
    List.forall_mem_singleton] at forms
  obtain ⟨formX, formY⟩ := forms
  have text : lead ++ (first ++ gap ++ (second ++ last)) = x ++ ',' :: y := by
    simpa [Cut.join] using same
  have visible := solidX.visible solidY
  rw [← text] at visible
  simp only [List.forall_mem_append] at visible
  obtain ⟨visibleLead, ⟨-, visibleGap⟩, -, visibleLast⟩ := visible
  -- Nothing blank stands in the text, so a comma is all that the gaps can hold.
  obtain rfl := eq_nil_of_allBlank lists.lead visibleLead
  obtain rfl := eq_nil_of_allBlank (lists.last last rfl) visibleLast
  have inert : Number.isNumeral ',' = false := by decide
  have separates := lists.between gap List.mem_cons_self
  cases separates with
  | blank blank =>
      obtain rfl := eq_nil_of_allBlank blank visibleGap
      have member : ',' ∈ first ++ second := by
        rw [List.nil_append, List.append_nil, List.append_nil] at text
        rw [text]
        exact List.mem_append_right x List.mem_cons_self
      exact absurd member (List.not_mem_append (formX.not_mem inert) (formY.not_mem inert))
  | @comma before after left right =>
      rw [List.forall_mem_append, List.forall_mem_cons] at visibleGap
      obtain rfl := eq_nil_of_allBlank left visibleGap.1
      obtain rfl := eq_nil_of_allBlank right visibleGap.2.2
      have unmarked : ',' ∉ x := fun member => (solidX ',' member).2 rfl
      refine eq_of_append_mark_eq (formX.not_mem inert) unmarked (by simpa using text)

/-- Two texts list a point exactly when they are coordinates with its values. -/
theorem lists_pair_iff (solidX : Solid x) (solidY : Solid y) :
    (cut (x ++ ',' :: y)).Lists ∧ Values (cut (x ++ ',' :: y)).tokens [(numberX, numberY)] ↔
      (CoordinateForm x ∧ value x = .ok numberX) ∧ CoordinateForm y ∧ value y = .ok numberY := by
  constructor
  · rintro ⟨lists, values⟩
    have scanned : Scans (x ++ ',' :: y) (cut (x ++ ',' :: y)) := scans_iff.2 rfl
    have forms := scanned.form
    have same := join_cut (x ++ ',' :: y)
    generalize tokens : (cut (x ++ ',' :: y)).tokens = found at values
    cases values with
    | cons readX readY others =>
        cases others
        obtain ⟨rfl, rfl⟩ := eq_of_lists lists forms tokens solidX solidY same
        rw [tokens, List.forall_mem_cons, List.forall_mem_singleton] at forms
        exact ⟨⟨forms.1, readX⟩, forms.2, readY⟩
  · rintro ⟨⟨formX, readX⟩, formY, readY⟩
    obtain ⟨found, lists⟩ := cut_pair formX formY
    refine ⟨lists, ?_⟩
    rw [found]
    exact .cons readX readY .nil

end

end VectorScene.Points
