import VectorScene.Proofs.Reading.Normalize
import VectorScene.Proofs.Reading.Strict

/-!
# How readings end

A lenient reading fails only where a coordinate is too large to be normalized.  A
strict reading fails there as well, and at the first thing that cannot be read.
-/

namespace VectorScene.Reading

open VectorScene.Markup

/-- An element that is read and has a coordinate that is too large to be
normalized. -/
def Overflows (settings : Settings) (element : Kind × Node String) : Prop :=
  settings.normalize.isOn = true ∧ ∃ pixels, shape element.1 element.2 = .ok pixels ∧
    ∃ coordinate ∈ coordinates pixels,
      Canvas.TooLarge (settings.canvas.extent coordinate.1) coordinate.2

/-- The warning of an element, if it cannot be read. -/
def skipped? (element : Kind × Node String) : Option Warning :=
  match shape element.1 element.2 with
  | .ok _ => none
  | .error cause => some (.skipped element.1 cause)

/-- The shape of an element, if it is read and finished. -/
def finished? (settings : Settings) (element : Kind × Node String) : Option ReadShape :=
  match shape element.1 element.2 with
  | .ok pixels => (finish settings pixels).toOption
  | .error _ => none

section

variable {settings : Settings} {kind : Kind} {node : Node String} {pixels result : ReadShape}
  {cause : Defect}

/-! ## Single elements -/

theorem finish_of_overflows (read : shape kind node = .ok pixels)
    (overflows : Overflows settings (kind, node)) :
    finish settings pixels = .error .beyondBinary64 := by
  obtain ⟨normalizing, other, same, coordinate, member, large⟩ := overflows
  rw [show shape kind node = .ok other from same] at read
  cases read
  rw [finish, if_pos normalizing]
  exact normalize_of_tooLarge member large

theorem exists_finish (read : shape kind node = .ok pixels)
    (fits : ¬Overflows settings (kind, node)) : ∃ result, finish settings pixels = .ok result := by
  rw [finish]
  split
  next normalizing =>
    refine exists_normalize fun coordinate member large => fits ?_
    exact ⟨normalizing, pixels, read, coordinate, member, large⟩
  next => exact ⟨pixels, rfl⟩

theorem not_overflows_of_error (unreadable : shape kind node = .error cause) :
    ¬Overflows settings (kind, node) := by
  rintro ⟨-, pixels, read, -⟩
  rw [show shape kind node = .ok pixels from read] at unreadable
  cases unreadable

theorem skipped?_of_error (unreadable : shape kind node = .error cause) :
    skipped? (kind, node) = some (.skipped kind cause) := by
  simp only [skipped?, unreadable]

theorem finished?_of_error (unreadable : shape kind node = .error cause) :
    finished? settings (kind, node) = none := by
  simp only [finished?, unreadable]

theorem skipped?_of_ok (read : shape kind node = .ok pixels) : skipped? (kind, node) = none := by
  simp only [skipped?, read]

theorem finished?_of_ok (read : shape kind node = .ok pixels)
    (finished : finish settings pixels = .ok result) :
    finished? settings (kind, node) = some result := by
  simp only [finished?, read, finished]
  rfl

/-! ## Lists of elements -/

/-- A lenient reading fails when an element overflows.  Otherwise it warns of all
elements that cannot be read, and gives the shapes of all others. -/
theorem shapes_ends_lenient (lenient : settings.strict.isOn = false)
    (elements : List (Kind × Node String)) :
    ((∃ element ∈ elements, Overflows settings element) ∧
      (shapes settings elements).outcome = .error .beyondBinary64) ∨
    ((∀ element ∈ elements, ¬Overflows settings element) ∧
      shapes settings elements =
        ⟨elements.filterMap skipped?, .ok (elements.filterMap (finished? settings))⟩) := by
  induction elements with
  | nil => exact .inr ⟨List.forall_mem_nil _, rfl⟩
  | cons element rest ih =>
      obtain ⟨kind, node⟩ := element
      cases read : shape kind node with
      | error cause =>
          rw [shapes_lenient lenient read, List.filterMap_cons_some (skipped?_of_error read),
            List.filterMap_cons_none (finished?_of_error read)]
          rcases ih with ⟨⟨later, member, overflows⟩, failed⟩ | ⟨fit, same⟩
          · exact .inl ⟨⟨later, List.mem_cons_of_mem _ member, overflows⟩, failed⟩
          · rw [same]
            exact .inr ⟨List.forall_mem_cons.2 ⟨not_overflows_of_error read, fit⟩, rfl⟩
      | ok pixels =>
          by_cases overflows : Overflows settings (kind, node)
          · rw [shapes_unfinished read (finish_of_overflows read overflows)]
            exact .inl ⟨⟨(kind, node), List.mem_cons_self, overflows⟩, rfl⟩
          · obtain ⟨result, finished⟩ := exists_finish read overflows
            rw [shapes_finished read finished, List.filterMap_cons_none (skipped?_of_ok read),
              List.filterMap_cons_some (finished?_of_ok read finished)]
            rcases ih with ⟨⟨later, member, overflowing⟩, failed⟩ | ⟨fit, same⟩
            · rw [failed]
              exact .inl ⟨⟨later, List.mem_cons_of_mem _ member, overflowing⟩, rfl⟩
            · rw [same]
              exact .inr ⟨List.forall_mem_cons.2 ⟨overflows, fit⟩, rfl⟩

/-- A strict reading fails at the first element that overflows or cannot be read.
Otherwise it gives the shapes of all elements. -/
theorem shapes_ends_strict (strict : settings.strict.isOn = true)
    (elements : List (Kind × Node String)) :
    (ComesTo settings (Overflows settings) elements ∧
      shapes settings elements = ⟨[], .error .beyondBinary64⟩) ∨
    (∃ kind cause, ComesTo settings (Unreadable kind cause) elements ∧
      shapes settings elements = ⟨[], .error (.defect cause)⟩) ∨
    ((∀ element ∈ elements, Finishes settings element) ∧
      shapes settings elements = ⟨[], .ok (elements.filterMap (finished? settings))⟩) := by
  induction elements with
  | nil => exact .inr (.inr ⟨List.forall_mem_nil _, rfl⟩)
  | cons element rest ih =>
      obtain ⟨kind, node⟩ := element
      cases read : shape kind node with
      | error cause =>
          exact .inr (.inl ⟨kind, cause, .here ⟨rfl, read⟩, shapes_strict strict read⟩)
      | ok pixels =>
          by_cases overflows : Overflows settings (kind, node)
          · exact .inl ⟨.here overflows, shapes_unfinished read (finish_of_overflows read overflows)⟩
          · obtain ⟨result, finished⟩ := exists_finish read overflows
            have finishes : Finishes settings (kind, node) := ⟨pixels, result, read, finished⟩
            rw [shapes_finished read finished,
              List.filterMap_cons_some (finished?_of_ok read finished)]
            rcases ih with ⟨comes, same⟩ | ⟨later, cause, comes, same⟩ | ⟨all, same⟩
            · rw [same]
              exact .inl ⟨.later finishes comes, rfl⟩
            · rw [same]
              exact .inr (.inl ⟨later, cause, .later finishes comes, rfl⟩)
            · rw [same]
              exact .inr (.inr ⟨List.forall_mem_cons.2 ⟨finishes, all⟩, rfl⟩)

end

/-! ## Documents -/

/-- How a reading ends.  A lenient one fails exactly when an element overflows, and
warns of everything that cannot be read otherwise.  A strict one fails for a missing
group, or at the first element that overflows or cannot be read. -/
theorem ofTree_ends (settings : Settings) (groupId : Option String) (tree : Node String) :
    match elements? groupId tree with
    | none =>
        ∃ id ∈ groupId, ofTree settings groupId tree =
          if settings.strict.isOn then ⟨[], .error (.defect (.missingGroup id))⟩
          else ⟨[.missingGroup id], .ok []⟩
    | some elements =>
        if settings.strict.isOn then
          (ComesTo settings (Overflows settings) elements ∧
            ofTree settings groupId tree = ⟨[], .error .beyondBinary64⟩) ∨
          (∃ kind cause, ComesTo settings (Unreadable kind cause) elements ∧
            ofTree settings groupId tree = ⟨[], .error (.defect cause)⟩) ∨
          ((∀ element ∈ elements, Finishes settings element) ∧
            ofTree settings groupId tree =
              ⟨[], .ok (elements.filterMap (finished? settings))⟩)
        else
          ((∃ element ∈ elements, Overflows settings element) ∧
            (ofTree settings groupId tree).outcome = .error .beyondBinary64) ∨
          ((∀ element ∈ elements, ¬Overflows settings element) ∧
            ofTree settings groupId tree =
              ⟨elements.filterMap skipped?, .ok (elements.filterMap (finished? settings))⟩) := by
  cases found : elements? groupId tree with
  | none =>
      cases groupId with
      | none => cases found
      | some id =>
          refine ⟨id, rfl, ?_⟩
          cases strict : settings.strict.isOn with
          | false => exact ofTree_missing_lenient found strict
          | true => exact ofTree_missing_strict found strict
  | some elements =>
      rw [ofTree_eq_shapes found]
      cases strict : settings.strict.isOn with
      | false => exact shapes_ends_lenient strict elements
      | true => exact shapes_ends_strict strict elements

end VectorScene.Reading
