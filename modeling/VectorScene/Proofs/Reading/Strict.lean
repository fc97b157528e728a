import VectorScene.Proofs.Run
import VectorScene.Reading

/-!
# Strict and lenient readings

A strict reading and a lenient one of the same elements go the same way up to the
first element that cannot be read.  There the strict one ends with the defect and
the lenient one warns of it.
-/

namespace VectorScene.Reading

open VectorScene.Markup

/-- The elements of a document, or of its group, that are read, pass by pass.  There
are none when the group is missing. -/
def elements? (groupId : Option String) (tree : Node String) :
    Option (List (Kind × Node String)) :=
  match groupId with
  | none => some (candidates tree.strip)
  | some id => (group? id tree.strip).map candidates

/-- An element that is read and finished. -/
def Finishes (settings : Settings) (element : Kind × Node String) : Prop :=
  ∃ pixels result, shape element.1 element.2 = .ok pixels ∧ finish settings pixels = .ok result

/-- An element of a kind that cannot be read for some cause. -/
def Unreadable (kind : Kind) (cause : Defect) (element : Kind × Node String) : Prop :=
  element.1 = kind ∧ shape kind element.2 = .error cause

/-- A reading comes to an element when all elements before it are read and
finished. -/
inductive ComesTo (settings : Settings) (stop : Kind × Node String → Prop) :
    List (Kind × Node String) → Prop
  | here {element rest} : stop element → ComesTo settings stop (element :: rest)
  | later {element rest} : Finishes settings element → ComesTo settings stop rest →
      ComesTo settings stop (element :: rest)

/-! ## Steps -/

section

variable {settings : Settings} {kind : Kind} {node : Node String} {rest : List (Kind × Node String)}
  {pixels result : ReadShape} {fault : Fault} {cause : Defect}

/-- An element that is finished adds its shape to what is read. -/
theorem shapes_finished (read : shape kind node = .ok pixels)
    (finished : finish settings pixels = .ok result) :
    shapes settings ((kind, node) :: rest) =
      ⟨(shapes settings rest).warnings, (shapes settings rest).outcome.map (result :: ·)⟩ := by
  rw [shapes, read]
  simp only [finished, Run.ofExcept_ok_bind]
  exact Run.bind_pure _ _

/-- An element that is read and cannot be finished ends a reading. -/
theorem shapes_unfinished (read : shape kind node = .ok pixels)
    (failed : finish settings pixels = .error fault) :
    shapes settings ((kind, node) :: rest) = ⟨[], .error fault⟩ := by
  rw [shapes, read]
  simp only [failed, Run.ofExcept_error_bind]

/-- An element that cannot be read ends a strict reading. -/
theorem shapes_strict (strict : settings.strict.isOn = true)
    (unreadable : shape kind node = .error cause) :
    shapes settings ((kind, node) :: rest) = ⟨[], .error (.defect cause)⟩ := by
  rw [shapes, unreadable]
  simp only [strict, if_true]
  rfl

/-- An element that cannot be read is skipped by a lenient reading. -/
theorem shapes_lenient (lenient : settings.strict.isOn = false)
    (unreadable : shape kind node = .error cause) :
    shapes settings ((kind, node) :: rest) =
      ⟨.skipped kind cause :: (shapes settings rest).warnings, (shapes settings rest).outcome⟩ := by
  rw [shapes, unreadable]
  simp only [lenient, Bool.false_eq_true, if_false, Run.warn_bind]

end

/-! ## Runs -/

/-- The same settings with another strictness. -/
def withStrict (settings : Settings) (strict : Value) : Settings :=
  { settings with strict }

/-- Either a lenient reading does not warn and a strict one is the same, or both
come to a first element that cannot be read. -/
theorem shapes_agree (settings : Settings) {off on : Value} (lenient : off.isOn = false)
    (strict : on.isOn = true) (elements : List (Kind × Node String)) :
    ((shapes (withStrict settings off) elements).warnings = [] ∧
      shapes (withStrict settings on) elements = shapes (withStrict settings off) elements) ∨
    ∃ kind cause, ComesTo settings (Unreadable kind cause) elements ∧
      (shapes (withStrict settings off) elements).warnings.head? = some (.skipped kind cause) ∧
      shapes (withStrict settings on) elements = ⟨[], .error (.defect cause)⟩ := by
  induction elements with
  | nil => exact .inl ⟨rfl, rfl⟩
  | cons element rest ih =>
      obtain ⟨kind, node⟩ := element
      cases read : shape kind node with
      | error cause =>
          refine .inr ⟨kind, cause, .here ⟨rfl, read⟩, ?_, ?_⟩
          · rw [shapes_lenient lenient read]
            rfl
          · exact shapes_strict strict read
      | ok pixels =>
          cases finished : finish settings pixels with
          | error fault =>
              have failed (value : Value) :
                  finish (withStrict settings value) pixels = .error fault := finished
              rw [shapes_unfinished read (failed on), shapes_unfinished read (failed off)]
              exact .inl ⟨rfl, rfl⟩
          | ok result =>
              have done (value : Value) :
                  finish (withStrict settings value) pixels = .ok result := finished
              rw [shapes_finished read (done on), shapes_finished read (done off)]
              rcases ih with ⟨silent, same⟩ | ⟨later, cause, stops, first, ended⟩
              · rw [silent, same]
                exact .inl ⟨rfl, by rw [silent]⟩
              · rw [ended]
                exact .inr ⟨later, cause, .later ⟨pixels, result, read, finished⟩ stops, first, rfl⟩

/-! ## Documents -/

section

variable {settings : Settings} {groupId : Option String} {id : String} {tree : Node String}

/-- What is read of a document is what is read of its elements. -/
theorem ofTree_eq_shapes {elements : List (Kind × Node String)}
    (found : elements? groupId tree = some elements) :
    ofTree settings groupId tree = shapes settings elements := by
  cases groupId with
  | none =>
      cases found
      rfl
  | some id =>
      obtain ⟨group, present, rfl⟩ := Option.map_eq_some_iff.1 found
      simp only [ofTree, present]

theorem ofTree_missing_lenient (missing : elements? (some id) tree = none)
    (lenient : settings.strict.isOn = false) :
    ofTree settings (some id) tree = ⟨[.missingGroup id], .ok []⟩ := by
  simp only [ofTree, Option.map_eq_none_iff.1 missing, lenient, Bool.false_eq_true, if_false]
  rfl

theorem ofTree_missing_strict (missing : elements? (some id) tree = none)
    (strict : settings.strict.isOn = true) :
    ofTree settings (some id) tree = ⟨[], .error (.defect (.missingGroup id))⟩ := by
  simp only [ofTree, Option.map_eq_none_iff.1 missing, strict, if_true]
  rfl

end

/-- A strict reading of a document ends with the first thing that a lenient reading
of it warns of, and is the same when there is none.  That thing is the missing
group, or the defect of the first element that cannot be read. -/
theorem ofTree_agree (settings : Settings) {off on : Value} (lenient : off.isOn = false)
    (strict : on.isOn = true) (groupId : Option String) (tree : Node String) :
    ((ofTree (withStrict settings off) groupId tree).warnings = [] →
      ofTree (withStrict settings on) groupId tree =
        ofTree (withStrict settings off) groupId tree) ∧
    ∀ first ∈ (ofTree (withStrict settings off) groupId tree).warnings.head?, ∃ cause,
      ofTree (withStrict settings on) groupId tree = ⟨[], .error (.defect cause)⟩ ∧
      ((∃ id, groupId = some id ∧ elements? groupId tree = none ∧ cause = .missingGroup id ∧
          first.message = cause.message) ∨
        ∃ elements kind, elements? groupId tree = some elements ∧
          ComesTo settings (Unreadable kind cause) elements ∧
          first.message = "Skipping <" ++ kind.tag ++ ">: " ++ cause.message) := by
  cases found : elements? groupId tree with
  | none =>
      cases groupId with
      | none => cases found
      | some id =>
          rw [ofTree_missing_lenient found lenient, ofTree_missing_strict found strict]
          constructor
          · intro silent
            cases silent
          · rintro _ ⟨⟩
            exact ⟨.missingGroup id, rfl, .inl ⟨id, rfl, rfl, rfl, rfl⟩⟩
  | some elements =>
      rw [ofTree_eq_shapes found, ofTree_eq_shapes found]
      rcases shapes_agree settings lenient strict elements with
        ⟨silent, same⟩ | ⟨kind, cause, stops, warned, ended⟩
      · constructor
        · intro _
          exact same
        · intro first member
          rw [silent] at member
          cases member
      · constructor
        · intro silent
          rw [silent] at warned
          cases warned
        · intro first member
          rw [warned] at member
          cases member
          exact ⟨cause, ended, .inr ⟨elements, kind, rfl, stops, rfl⟩⟩

/-- A circle without a radius, and after it in a group a line with a coordinate that
is not finite. -/
def mixedTree : Node String :=
  .element "svg" [] none
    [.element "circle" [("cx", "1"), ("cy", "2"), ("style", "stroke:#993399")] none [] none,
     .element "g" [] none
      [.element "line" [("x1", "inf"), ("y1", "2"), ("x2", "3"), ("y2", "4")] none [] none]
      none]
    none

/-- A reading that takes lines before circles stops at the line. -/
theorem ofTree_agree_mixed :
    let settings : Settings := ⟨⟨400, 400, by decide, by decide⟩, .absent, .flag false, .absent⟩
    (ofTree (withStrict settings (.flag false)) none mixedTree).warnings =
        [.skipped .line (.invalidAttribute "x1" "inf"), .skipped .circle (.missingAttribute "r")] ∧
      ∃ cause,
        ofTree (withStrict settings (.flag true)) none mixedTree = ⟨[], .error (.defect cause)⟩ := by
  intro settings
  have warned : (ofTree (withStrict settings (.flag false)) none mixedTree).warnings =
      [.skipped .line (.invalidAttribute "x1" "inf"), .skipped .circle (.missingAttribute "r")] := by
    decide +kernel
  have first : Warning.skipped .line (.invalidAttribute "x1" "inf") ∈
      (ofTree (withStrict settings (.flag false)) none mixedTree).warnings.head? := by
    rw [warned]
    rfl
  have lenient : (Value.flag false).isOn = false := rfl
  have strict : (Value.flag true).isOn = true := rfl
  obtain ⟨cause, ended, -⟩ := (ofTree_agree settings lenient strict none mixedTree).2 _ first
  exact ⟨warned, cause, ended⟩

end VectorScene.Reading
