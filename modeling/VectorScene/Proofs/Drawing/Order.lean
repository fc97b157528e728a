import Mathlib.Algebra.Group.Int.Defs
import VectorScene.Proofs.Drawing.Leaf

/-!
# Drawing order

A scene is drawn in the order of its leaves, whatever its groups are.  A drawing fails at the
first leaf that fails, or for a size that cannot be written.
-/

namespace VectorScene.Drawing

open VectorScene.Markup VectorScene.Number

/-- The frame of a drawing: the sizes of the canvas as texts, and the identifier of the
group. -/
structure Frames (settings : Settings) (document : Document) : Prop where
  width : (Number.integer settings.canvas.width).written = .ok document.width
  height : (Number.integer settings.canvas.height).written = .ok document.height
  groupId : settings.groupId = document.groupId

section

variable {Thing : Type} [Shown Thing] {settings : Settings} {scene : List (Command Thing)}
  {document : Document} {warnings : List Warning}

/-- A scene is drawn when its leaves are and its sizes can be written. -/
theorem ofScene_eq_ok :
    ofScene settings scene = ⟨warnings, .ok document⟩ ↔
      leafNodes settings.canvas (flatten scene) = ⟨warnings, .ok document.shapes⟩ ∧
        Frames settings document := by
  rw [ofScene, Run.bind_eq_ok]
  simp only [Run.bind_eq_ok, Run.ofExcept_eq_ok]
  constructor
  · rintro ⟨first, nodes, _, drawn, ⟨_, width, _, ⟨wide, rfl⟩,
      ⟨_, height, _, ⟨high, rfl⟩, same, rfl⟩, rfl⟩, rfl⟩
    cases same
    rw [List.append_nil]
    exact ⟨drawn, ⟨wide, high, rfl⟩⟩
  · obtain ⟨width, height, groupId, nodes⟩ := document
    rintro ⟨drawn, ⟨wide, high, rfl⟩⟩
    exact ⟨warnings, nodes, [], drawn, ⟨[], width, [], ⟨wide, rfl⟩,
      ⟨[], height, [], ⟨high, rfl⟩, rfl, rfl⟩, rfl⟩, (List.append_nil warnings).symm⟩

/-- A drawing fails at the first leaf that fails on its own, or because a size cannot be
written. -/
theorem ofScene_eq_error {fault : Fault} :
    ofScene settings scene = ⟨warnings, .error fault⟩ ↔
      (∃ before leaf after nodes, flatten scene = before ++ leaf :: after ∧
        Draws settings.canvas before warnings nodes ∧ Fails settings.canvas leaf fault) ∨
      fault = .integerTooLong ∧
        (IsTooLong settings.canvas.width ∨ IsTooLong settings.canvas.height) ∧
        ∃ nodes, Draws settings.canvas (flatten scene) warnings nodes := by
  have unwritten {size : Int} : (Number.integer size).written = .error fault ↔
      fault = .integerTooLong ∧ IsTooLong size := by
    simp only [written_eq_error, Number.integer.injEq, exists_eq_left']
  rw [ofScene, Run.bind_eq_error, leafNodes_eq_error]
  refine or_congr Iff.rfl ?_
  simp only [leafNodes_eq_ok, Run.bind_eq_error, Run.ofExcept_eq_error, Run.ofExcept_eq_ok,
    unwritten]
  constructor
  · -- All leaves are drawn, so the drawing ends at the width or, after it, at the height.
    rintro ⟨_, nodes, _, draws, ⟨⟨rfl, wide⟩, rfl⟩ |
      ⟨_, width, _, ⟨-, rfl⟩, ⟨⟨rfl, high⟩, rfl⟩ | ⟨_, _, _, -, impossible, -⟩, rfl⟩, rfl⟩
    · rw [List.append_nil]
      exact ⟨rfl, .inl wide, nodes, draws⟩
    · rw [List.append_nil, List.append_nil]
      exact ⟨rfl, .inr high, nodes, draws⟩
    · cases impossible
  · rintro ⟨rfl, long, nodes, draws⟩
    refine ⟨warnings, nodes, [], draws, ?_, (List.append_nil warnings).symm⟩
    cases width : (Number.integer settings.canvas.width).written with
    | error fault =>
        obtain ⟨rfl, _, ⟨⟩, wide⟩ := written_eq_error.1 width
        exact .inl ⟨⟨rfl, wide⟩, rfl⟩
    | ok text =>
        refine .inr ⟨[], text, [], ⟨rfl, rfl⟩, .inl ⟨⟨rfl, ?_⟩, rfl⟩, rfl⟩
        rcases long with wide | high
        · rw [written_of_isTooLong wide] at width
          cases width
        · exact high

/-- Two scenes one after the other are drawn when each is, with the warnings and the
elements of both in order. -/
theorem ofScene_append {other : List (Command Thing)} :
    ofScene settings (scene ++ other) = ⟨warnings, .ok document⟩ ↔
      ∃ first nodes second others,
        ofScene settings scene = ⟨first, .ok { document with shapes := nodes }⟩ ∧
        ofScene settings other = ⟨second, .ok { document with shapes := others }⟩ ∧
        warnings = first ++ second ∧ document.shapes = nodes ++ others := by
  have frame (nodes : List (Node String)) :
      Frames settings { document with shapes := nodes } ↔ Frames settings document :=
    ⟨fun frames => ⟨frames.width, frames.height, frames.groupId⟩,
      fun frames => ⟨frames.width, frames.height, frames.groupId⟩⟩
  simp only [ofScene_eq_ok, frame, flatten_append, leafNodes_append, Run.bind_eq_ok]
  constructor
  · rintro ⟨⟨first, nodes, _, drawn, ⟨second, others, _, drawnOthers, same, rfl⟩, rfl⟩, frames⟩
    have joined : Except.ok (nodes ++ others) = Except.ok document.shapes :=
      congrArg Run.outcome same
    cases congrArg Run.warnings same
    rw [List.append_nil]
    exact ⟨first, nodes, second, others, ⟨drawn, frames⟩, ⟨drawnOthers, frames⟩, rfl,
      (Except.ok.inj joined).symm⟩
  · rintro ⟨first, nodes, second, others, ⟨drawn, frames⟩, ⟨drawnOthers, -⟩, rfl, same⟩
    rw [same]
    exact ⟨⟨first, nodes, second, drawn, ⟨second, others, [], drawnOthers, rfl,
      (List.append_nil second).symm⟩, rfl⟩, frames⟩

end

/-- The leaves of a scene decide how it is drawn, whatever its groups are.  It is drawn exactly
when all leaves are and the sizes can be written, and then each shape gives an element of the
one group and each thing that is no command a warning, in drawing order, so that one scene after
another is drawn as both are.  Otherwise, the fault is that of the first leaf that fails on its
own, after the warnings of the leaves before it, or all leaves are drawn and a size is too long
to be written. -/
theorem ofScene_leaves {Thing : Type} [Shown Thing] (settings : Settings)
    (scene : List (Command Thing)) :
    (∀ leaf ∈ flatten scene, ∀ content, leaf.toCommand ≠ .glow content) ∧
    (∀ other, (SameUpToGroups scene other ↔ flatten scene = flatten other) ∧
      (flatten scene = flatten other → ofScene settings scene = ofScene settings other)) ∧
    (∀ warnings document, (ofScene settings scene = ⟨warnings, .ok document⟩ ↔
        Draws settings.canvas (flatten scene) warnings document.shapes ∧
          Frames settings document) ∧
      ∃ group, document.tree.children = [group] ∧ group.tag? = some "g" ∧
        group.children = document.shapes.map (Node.mapValues Value.text)) ∧
    (∀ other warnings document, ofScene settings (scene ++ other) = ⟨warnings, .ok document⟩ ↔
      ∃ first nodes second others,
        ofScene settings scene = ⟨first, .ok { document with shapes := nodes }⟩ ∧
        ofScene settings other = ⟨second, .ok { document with shapes := others }⟩ ∧
        warnings = first ++ second ∧ document.shapes = nodes ++ others) ∧
    ∀ warnings fault, ofScene settings scene = ⟨warnings, .error fault⟩ ↔
      (∃ before leaf after nodes, flatten scene = before ++ leaf :: after ∧
        Draws settings.canvas before warnings nodes ∧ Fails settings.canvas leaf fault) ∨
      fault = .integerTooLong ∧
        (IsTooLong settings.canvas.width ∨ IsTooLong settings.canvas.height) ∧
        ∃ nodes, Draws settings.canvas (flatten scene) warnings nodes := by
  refine ⟨?_, ?_, ?_, fun other warnings document => ofScene_append,
    fun warnings fault => ofScene_eq_error⟩
  · intro leaf _ content
    cases leaf with
    | shape drawn => exact nofun
    | foreign thing => exact nofun
  · intro other
    refine ⟨sameUpToGroups_iff, fun same => ?_⟩
    rw [ofScene, ofScene, same]
  · intro warnings document
    rw [ofScene_eq_ok, leafNodes_eq_ok]
    exact ⟨Iff.rfl, _, rfl, rfl, rfl⟩

/-- A flag and a tuple that are no commands, a line and a circle, in nested groups. -/
def mixedScene : List Command :=
  let whole (position : Int) : Value := .number (.integer position)
  [.glow
    [.foreign (.value (.flag true)),
     .shape (.line (whole 0) (whole 0) (whole 1) (whole 1) (whole 0x993399FF)),
     .glow [.foreign (.tuple [whole 1, .absent])]],
   .shape (.circle (whole 0) (whole 0) (whole (-1)) (whole 255))]

/-- A group with nothing that is a command and a circle whose radius is a text. -/
def brokenScene : List Command :=
  let whole (position : Int) : Value := .number (.integer position)
  [.glow [.foreign (.value .absent), .shape (.circle (whole 0) (whole 0) (.text "1") .absent)]]

/-- The least integer that is too long. -/
def longInteger : Int :=
  10 ^ maxDigits

theorem longInteger_pos : 0 < longInteger :=
  Int.pow_pos (by decide)

theorem isTooLong_pow {digits : Nat} (many : maxDigits ≤ digits) : IsTooLong (10 ^ digits) := by
  have base : (10 : Int).natAbs = 10 := rfl
  rw [isTooLong_iff, Int.natAbs_pow, base]
  exact Nat.pow_le_pow_right (by decide) many

/-- Besides the mixed scenes: a scene without shapes is not drawn when it holds an integer that
is too long to be shown, or anything else that cannot be shown, and the empty scene is not drawn
on a canvas whose width is too long to be written. -/
theorem ofScene_leaves_mixed :
    let settings (width : Int) (positive : 0 < width) : Settings :=
      ⟨⟨width, 300, positive, by decide⟩, .flag false, .absent, .absent⟩
    let small := settings 400 (by decide)
    let line := shape .line ["200", "150", "400", "300"] [("style", "fill:none;stroke:#993399")]
    let circle := shape .circle ["200", "150", "0"] [("style", "fill:none;stroke:#000000")]
    let nothing : List Command := []
    Draws small.canvas (flatten mixedScene) [.unsupported "True", .unsupported "(1, None)"]
        [line, circle] ∧
      (∃ before leaf after nodes, flatten (mixedScene ++ brokenScene) = before ++ leaf :: after ∧
        Draws small.canvas before
          [.unsupported "True", .unsupported "(1, None)", .unsupported "None"] nodes ∧
        Fails small.canvas leaf .notNumeric) ∧
      ofScene small [.foreign (Foreign.value (.number (.integer longInteger)))] =
        ⟨[], .error .integerTooLong⟩ ∧
      (∀ fault : Fault, ofScene small [.foreign (Except.error fault : Except Fault String)] =
        ⟨[], .error fault⟩) ∧
      ofScene (settings longInteger longInteger_pos) nothing = ⟨[], .error .integerTooLong⟩ := by
  intro settings small line circle nothing
  have drawn : ofScene small mixedScene =
      ⟨[.unsupported "True", .unsupported "(1, None)"],
        .ok ⟨"400", "300", .absent, [line, circle]⟩⟩ := by
    decide +kernel
  have failed : ofScene small (mixedScene ++ brokenScene) =
      ⟨[.unsupported "True", .unsupported "(1, None)", .unsupported "None"],
        .error .notNumeric⟩ := by
    decide +kernel
  have long : IsTooLong longInteger := isTooLong_pow (Nat.le_refl maxDigits)
  have unshown : Foreign.shown (.value (.number (.integer longInteger))) =
      .error .integerTooLong :=
    Foreign.shown_eq_error.2
      ⟨rfl, longInteger, List.mem_singleton_self _, long⟩
  obtain ⟨-, -, succeeds, -, -⟩ := ofScene_leaves small mixedScene
  obtain ⟨-, -, -, -, fails⟩ := ofScene_leaves small (mixedScene ++ brokenScene)
  obtain ⟨-, -, -, -, failsLong⟩ :=
    ofScene_leaves small [.foreign (Foreign.value (.number (.integer longInteger)))]
  obtain ⟨-, -, -, -, failsWide⟩ := ofScene_leaves (settings longInteger longInteger_pos) nothing
  refine ⟨((succeeds _ _).1.1 drawn).1, ?_, ?_, ?_, ?_⟩
  · obtain first | ⟨different, -⟩ := (fails _ _).1 failed
    · exact first
    · cases different
  · exact (failsLong _ _).2
      (.inl ⟨[], _, [], [], rfl, draws_nil.2 ⟨rfl, rfl⟩, .foreign unshown⟩)
  · intro fault
    obtain ⟨-, -, -, -, failsOther⟩ :=
      ofScene_leaves small [.foreign (Except.error fault : Except Fault String)]
    exact (failsOther _ _).2 (.inl ⟨[], _, [], [], rfl, draws_nil.2 ⟨rfl, rfl⟩, .foreign rfl⟩)
  · exact (failsWide _ _).2
      (.inr ⟨rfl, .inl long, [], draws_nil.2 ⟨rfl, rfl⟩⟩)

end VectorScene.Drawing
