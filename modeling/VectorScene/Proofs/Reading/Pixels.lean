import VectorScene.Proofs.Reading.Group
import VectorScene.Proofs.Reading.Modes
import VectorScene.Proofs.Reading.Passes

/-!
# Readings in pixels

A reading in pixels gives the shapes of elements kind by kind, whatever the canvas is.  One that
normalizes goes the same way and normalizes shape by shape.
-/

namespace VectorScene.Reading

open VectorScene.Markup

/-! ## Shapes by kind -/

/-- A list in parts by key holds each part as its members with the key. -/
theorem flatMap_filter_key {α : Type} {key : α → Kind} {part : Kind → List α} {kinds : List Kind}
    (nodup : kinds.Nodup) (keys : ∀ kind ∈ kinds, ∀ value ∈ part kind, key value = kind) :
    (kinds.flatMap fun kind => (kinds.flatMap part).filter fun value => key value = kind) =
      kinds.flatMap part := by
  refine List.flatMap_congr fun kind member => ?_
  induction kinds with
  | nil => cases member
  | cons first rest ih =>
      rw [List.nodup_cons] at nodup
      rw [List.forall_mem_cons] at keys
      rw [List.flatMap_cons, List.filter_append]
      rcases List.mem_cons.1 member with rfl | later
      · have here : (part kind).filter (fun value => key value = kind) = part kind := by
          rw [List.filter_eq_self]
          exact fun value inside => decide_eq_true (keys.1 value inside)
        have none : (rest.flatMap part).filter (fun value => key value = kind) = [] := by
          rw [List.filter_eq_nil_iff]
          intro value inside same
          obtain ⟨other, within, inside⟩ := List.mem_flatMap.1 inside
          rw [keys.2 other within value inside, decide_eq_true_eq] at same
          exact nodup.1 (same ▸ within)
        rw [here, none, List.append_nil]
      · have none : (part first).filter (fun value => key value = kind) = [] := by
          rw [List.filter_eq_nil_iff]
          intro value inside same
          rw [keys.1 value inside, decide_eq_true_eq] at same
          exact nodup.1 (same ▸ later)
        rw [none, List.nil_append]
        exact ih nodup.2 keys.2 later

theorem exists_candidates {groupId : Option String} {tree : Node String}
    {elements : List (Kind × Node String)} (found : elements? groupId tree = some elements) :
    ∃ root, elements = candidates root := by
  cases groupId with
  | none => exact ⟨tree.strip, (Option.some.inj found).symm⟩
  | some id =>
      obtain ⟨group, -, rfl⟩ := Option.map_eq_some_iff.1 found
      exact ⟨group, rfl⟩

/-- What is read in pixels are shapes of elements, kind by kind. -/
theorem exists_parts {settings : Settings} (inPixels : settings.normalize.isOn = false)
    {groupId : Option String} {tree : Node String} {pixels : List ReadShape}
    (ended : (ofTree settings groupId tree).outcome = .ok pixels) :
    ∃ part : Kind → List ReadShape, pixels = Kind.all.flatMap part ∧
      ∀ kind, ∀ result ∈ part kind, ∃ node, shape kind node = .ok result := by
  cases found : elements? groupId tree with
  | some elements =>
      rw [ofTree_eq_shapes found] at ended
      obtain ⟨root, rfl⟩ := exists_candidates found
      refine ⟨fun kind => ((root.preorder.filter fun node => node.tag? = some kind.tag).map
        (kind, ·)).filterMap read?, ?_, ?_⟩
      · rw [eq_filterMap_of_shapes ended, finished?_eq_read? inPixels, candidates,
          List.filterMap_flatMap]
      · intro kind result member
        obtain ⟨element, inside, read⟩ := List.mem_filterMap.1 member
        obtain ⟨node, -, rfl⟩ := List.mem_map.1 inside
        cases shaped : shape kind node with
        | error cause =>
            rw [read?, shaped] at read
            cases read
        | ok other =>
            rw [read?, shaped] at read
            cases read
            exact ⟨node, shaped⟩
  | none =>
      have empty : pixels = [] := by
        cases groupId with
        | none => cases found
        | some id =>
            cases strict : settings.strict.isOn with
            | false =>
                rw [ofTree_missing_lenient found strict] at ended
                exact (Except.ok.inj ended).symm
            | true =>
                rw [ofTree_missing_strict found strict] at ended
                cases ended
      exact ⟨fun _ => [], empty, fun _ _ member => absurd member List.not_mem_nil⟩

/-- Shapes that are read in pixels are in the order of their kinds. -/
theorem eq_flatMap_filter_kind {settings : Settings} (inPixels : settings.normalize.isOn = false)
    {groupId : Option String} {tree : Node String} {pixels : List ReadShape}
    (ended : (ofTree settings groupId tree).outcome = .ok pixels) :
    (Kind.all.flatMap fun kind => pixels.filter fun result => result.kind = kind) = pixels := by
  obtain ⟨part, rfl, read⟩ := exists_parts inPixels ended
  refine flatMap_filter_key (by decide) ?_
  intro kind _ result member
  obtain ⟨node, shaped⟩ := read kind result member
  exact kind_of_shape shaped

/-- Shapes that are read in pixels are shapes of elements. -/
theorem exists_shape {settings : Settings} (inPixels : settings.normalize.isOn = false)
    {groupId : Option String} {tree : Node String} {pixels : List ReadShape}
    (ended : (ofTree settings groupId tree).outcome = .ok pixels) :
    ∀ result ∈ pixels, ∃ kind node, shape kind node = .ok result := by
  obtain ⟨part, rfl, read⟩ := exists_parts inPixels ended
  intro result member
  obtain ⟨kind, -, inside⟩ := List.mem_flatMap.1 member
  exact ⟨kind, read kind result inside⟩

/-! ## Readings that normalize -/

section

variable {settings : Settings} {off : Value} {warnings others : List Warning}
  {pixels results : List ReadShape}

/-- After a reading in pixels that succeeds, one that normalizes succeeds when every shape can be
normalized.  It warns of the same elements. -/
theorem shapes_normalized_iff (normalizing : settings.normalize.isOn = true)
    (inPixels : off.isOn = false) {elements : List (Kind × Node String)}
    (read : shapes (withNormalize settings off) elements = ⟨warnings, .ok pixels⟩) :
    shapes settings elements = ⟨others, .ok results⟩ ↔
      others = warnings ∧
        List.Forall₂ (fun before after => normalize settings.canvas before = .ok after)
          pixels results := by
  induction elements generalizing warnings others pixels results with
  | nil =>
      cases read
      exact Run.mk_nil_eq_ok
  | cons element rest ih =>
      obtain ⟨kind, node⟩ := element
      cases shaped : shape kind node with
      | error cause =>
          cases strict : settings.strict.isOn with
          | true =>
              -- The reading in pixels would have ended here.
              have strictly : (withNormalize settings off).strict.isOn = true := strict
              rw [shapes_strict strictly shaped] at read
              cases read
          | false =>
              have leniently : (withNormalize settings off).strict.isOn = false := strict
              rw [shapes_lenient leniently shaped] at read
              obtain ⟨rfl, ended⟩ := Run.mk.inj read
              have known : shapes (withNormalize settings off) rest = ⟨_, .ok pixels⟩ :=
                congrArg (Run.mk _) ended
              rw [shapes_lenient strict shaped]
              constructor
              · intro same
                obtain ⟨rfl, done⟩ := Run.mk.inj same
                obtain ⟨warned, all⟩ := (ih known).1 (congrArg (Run.mk _) done)
                exact ⟨congrArg _ warned, all⟩
              · rintro ⟨rfl, all⟩
                rw [(ih known).2 ⟨rfl, all⟩]
      | ok before =>
          have kept : finish (withNormalize settings off) before = .ok before := by
            simp [finish, withNormalize, inPixels]
          have asked : finish settings before = normalize settings.canvas before :=
            if_pos normalizing
          rw [shapes_finished shaped kept] at read
          obtain ⟨rfl, ended⟩ := Run.mk.inj read
          obtain ⟨later, done, rfl⟩ := map_eq_ok.1 ended
          have known : shapes (withNormalize settings off) rest = ⟨_, .ok later⟩ :=
            congrArg (Run.mk _) done
          rw [List.forall₂_cons_left_iff]
          cases finished : normalize settings.canvas before with
          | error fault =>
              rw [shapes_unfinished shaped (asked.trans finished)]
              constructor
              · intro ended
                cases ended
              · rintro ⟨-, after, tail, head, -, -⟩
                cases head
          | ok after =>
              rw [shapes_finished shaped (asked.trans finished)]
              constructor
              · intro same
                obtain ⟨rfl, ended⟩ := Run.mk.inj same
                obtain ⟨tail, endedLater, rfl⟩ := map_eq_ok.1 ended
                obtain ⟨warned, all⟩ := (ih known).1 (congrArg (Run.mk _) endedLater)
                exact ⟨warned, after, tail, rfl, all, rfl⟩
              · rintro ⟨rfl, _, tail, ⟨⟩, all, rfl⟩
                rw [(ih known).2 ⟨rfl, all⟩]
                rfl

/-- The same for a document. -/
theorem ofTree_normalized_iff (normalizing : settings.normalize.isOn = true)
    (inPixels : off.isOn = false) {groupId : Option String} {tree : Node String}
    (read : ofTree (withNormalize settings off) groupId tree = ⟨warnings, .ok pixels⟩) :
    ofTree settings groupId tree = ⟨others, .ok results⟩ ↔
      others = warnings ∧
        List.Forall₂ (fun before after => normalize settings.canvas before = .ok after)
          pixels results := by
  cases found : elements? groupId tree with
  | some elements =>
      rw [ofTree_eq_shapes found] at read
      rw [ofTree_eq_shapes found]
      exact shapes_normalized_iff normalizing inPixels read
  | none =>
      cases groupId with
      | none => cases found
      | some id =>
          cases strict : settings.strict.isOn with
          | true =>
              have ended : ofTree (withNormalize settings off) (some id) tree =
                  ⟨[], .error (.defect (.missingGroup id))⟩ := ofTree_missing_strict found strict
              rw [ended] at read
              cases read
          | false =>
              have ended : ofTree (withNormalize settings off) (some id) tree =
                  ⟨[.missingGroup id], .ok []⟩ := ofTree_missing_lenient found strict
              rw [ended] at read
              cases read
              rw [ofTree_missing_lenient found strict]
              exact Run.mk_nil_eq_ok

end

end VectorScene.Reading
