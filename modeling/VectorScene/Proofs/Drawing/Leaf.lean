import Mathlib.Algebra.Group.Nat.Defs
import VectorScene.Drawing.Scene
import VectorScene.Proofs.Run
import VectorScene.Proofs.Scene.Group

/-!
# Drawings leaf by leaf

A scene is drawn leaf by leaf.  Each shape gives an element and each thing that is no
command a warning, in drawing order, until a leaf fails.
-/

namespace VectorScene

open VectorScene.Number VectorScene.Text

/-! ## Things that cannot be shown -/

/-- An integer with more digits than are written. -/
def IsTooLong (value : Int) : Prop :=
  maxDigits < (decimalDigits value.natAbs).length

/-- These are the integers of more than `maxDigits` decimal digits. -/
theorem isTooLong_iff {value : Int} : IsTooLong value ↔ 10 ^ maxDigits ≤ value.natAbs := by
  rw [IsTooLong, ← Nat.not_le, decimalDigits, Nat.length_toDigits_le_iff (by decide) (by decide),
    Nat.not_lt]

theorem written_of_isTooLong {value : Int} (long : IsTooLong value) :
    (Number.integer value).written = .error .integerTooLong := by
  rw [Number.written, text?, if_neg (Nat.not_le.2 long)]

/-- Of the numbers, only integers that are too long cannot be written. -/
theorem written_eq_error {number : Number} {fault : Fault} :
    number.written = .error fault ↔
      fault = .integerTooLong ∧ ∃ value, number = .integer value ∧ IsTooLong value := by
  constructor
  · intro failed
    rw [Number.written] at failed
    split at failed
    next => cases failed
    next none =>
      cases failed
      cases number with
      | real value => cases none
      | integer value =>
          rw [text?] at none
          split at none
          next => cases none
          next long => exact ⟨rfl, value, rfl, Nat.not_le.1 long⟩
  · rintro ⟨rfl, value, rfl, long⟩
    exact written_of_isTooLong long

theorem Value.shown_eq_error {value : Value} {fault : Fault} :
    value.shown = .error fault ↔
      fault = .integerTooLong ∧ ∃ size, value = .number (.integer size) ∧ IsTooLong size := by
  constructor
  · intro failed
    cases value with
    | absent => cases failed
    | flag value => cases failed
    | text value => cases failed
    | number number =>
        obtain ⟨same, size, rfl, long⟩ := written_eq_error.1 failed
        exact ⟨same, size, rfl, long⟩
  · rintro ⟨rfl, size, rfl, long⟩
    exact written_of_isTooLong long

/-- The values in a thing that is no command. -/
def Foreign.values : Foreign → List Value
  | .value single => [single]
  | .tuple values => values

/-- A value or a tuple is shown unless it holds one that cannot be. -/
theorem Foreign.shown_eq_error_iff {thing : Foreign} {fault : Fault} :
    thing.shown = .error fault ↔ ∃ value ∈ thing.values, value.shown = .error fault := by
  have unique {values : List Value} {value : Value} (unshown : value.shown = .error fault) :
      ∀ other ∈ values, ∀ found, other.shown = .error found → found = fault := by
    intro other _ found failed
    rw [(Value.shown_eq_error.1 failed).1, (Value.shown_eq_error.1 unshown).1]
  rw [Foreign.shown.eq_def]
  split
  next single => simp only [values, List.mem_singleton, exists_eq_left]
  next single =>
    simp only [bind_eq_error, pure_ne_error, and_false, exists_false, or_false, values,
      List.mem_singleton, exists_eq_left]
  next texts _ =>
    rw [values, bind_eq_error]
    constructor
    · rintro (failed | ⟨_, -, impossible⟩)
      · exact exists_of_mapM_eq_error failed
      · exact absurd impossible pure_ne_error
    · rintro ⟨value, inside, unshown⟩
      exact .inl (mapM_eq_error (unique unshown) ⟨value, inside, unshown⟩)

/-- A value or a tuple is shown unless it holds an integer that is too long. -/
theorem Foreign.shown_eq_error {thing : Foreign} {fault : Fault} :
    thing.shown = .error fault ↔ fault = .integerTooLong ∧
      ∃ size, .number (.integer size) ∈ thing.values ∧ IsTooLong size := by
  simp only [shown_eq_error_iff, Value.shown_eq_error]
  constructor
  · rintro ⟨value, inside, same, size, rfl, long⟩
    exact ⟨same, size, inside, long⟩
  · rintro ⟨same, size, inside, long⟩
    exact ⟨_, inside, same, size, rfl, long⟩

namespace Drawing

open VectorScene.Markup

section

variable {Thing : Type}

/-! ## Leaves -/

/-- The shapes among leaves. -/
def drawnShapes (leaves : List (Leaf Thing)) : List SceneShape :=
  leaves.filterMap fun
    | .shape scene => some scene
    | .foreign _ => none

/-- The things among leaves that are no commands. -/
def foreignThings (leaves : List (Leaf Thing)) : List Thing :=
  leaves.filterMap fun
    | .shape _ => none
    | .foreign thing => some thing

variable [Shown Thing]

/-- Leaves that are all drawn, with the warnings of the things that are no commands and the
elements of the shapes. -/
structure Draws (canvas : Canvas) (leaves : List (Leaf Thing)) (warnings : List Warning)
    (nodes : List (Node String)) : Prop where
  warnings : List.Forall₂
    (fun thing warning => (Shown.shown thing).map .unsupported = .ok warning)
    (foreignThings leaves) warnings
  nodes : List.Forall₂ (fun scene node => shapeNode canvas scene = .ok node)
    (drawnShapes leaves) nodes

/-- A leaf that fails on its own: a shape that cannot be drawn, or a thing that cannot be
shown. -/
inductive Fails (canvas : Canvas) : Leaf Thing → Fault → Prop where
  | shape {scene : SceneShape} {fault : Fault} :
      shapeNode canvas scene = .error fault → Fails canvas (.shape scene) fault
  | foreign {thing : Thing} {fault : Fault} :
      Shown.shown thing = .error fault → Fails canvas (.foreign thing) fault

variable {canvas : Canvas} {leaves rest : List (Leaf Thing)} {warnings : List Warning}
  {nodes : List (Node String)} {fault : Fault}

theorem draws_nil : Draws canvas ([] : List (Leaf Thing)) warnings nodes ↔
    warnings = [] ∧ nodes = [] := by
  constructor
  · rintro ⟨⟨⟩, ⟨⟩⟩
    exact ⟨rfl, rfl⟩
  · rintro ⟨rfl, rfl⟩
    exact ⟨.nil, .nil⟩

theorem draws_shape {scene : SceneShape} :
    Draws canvas (.shape scene :: rest) warnings nodes ↔
      ∃ node others, shapeNode canvas scene = .ok node ∧ Draws canvas rest warnings others ∧
        nodes = node :: others := by
  constructor
  · rintro ⟨shown, drawn⟩
    obtain ⟨node, others, first, later, rfl⟩ := List.forall₂_cons_left_iff.1 drawn
    exact ⟨node, others, first, ⟨shown, later⟩, rfl⟩
  · rintro ⟨node, others, first, draws, rfl⟩
    exact ⟨draws.warnings, .cons first draws.nodes⟩

theorem draws_foreign {thing : Thing} :
    Draws canvas (.foreign thing :: rest) warnings nodes ↔
      ∃ text others, Shown.shown thing = .ok text ∧ Draws canvas rest others nodes ∧
        warnings = .unsupported text :: others := by
  constructor
  · rintro ⟨shown, drawn⟩
    obtain ⟨warning, others, first, later, rfl⟩ := List.forall₂_cons_left_iff.1 shown
    obtain ⟨text, known, rfl⟩ := map_eq_ok.1 first
    exact ⟨text, others, known, ⟨later, drawn⟩, rfl⟩
  · rintro ⟨text, others, known, draws, rfl⟩
    exact ⟨.cons (map_eq_ok.2 ⟨text, known, rfl⟩) draws.warnings, draws.nodes⟩

/-- Leaves have their elements and warnings when each has its own. -/
theorem leafNodes_eq_ok : leafNodes canvas leaves = ⟨warnings, .ok nodes⟩ ↔
    Draws canvas leaves warnings nodes := by
  induction leaves generalizing warnings nodes with
  | nil =>
      rw [draws_nil, leafNodes, Run.pure_eq, Run.mk.injEq, Except.ok.injEq, eq_comm (a := []),
        eq_comm (a := [])]
  | cons leaf rest ih =>
      cases leaf with
      | shape scene =>
          simp only [draws_shape, leafNodes, Run.bind_eq_ok, Run.ofExcept_eq_ok, Run.pure_eq, ih]
          constructor
          · rintro ⟨_, node, _, ⟨first, rfl⟩, ⟨_, others, _, draws, same, rfl⟩, rfl⟩
            cases same
            rw [List.nil_append, List.append_nil]
            exact ⟨node, others, first, draws, rfl⟩
          · rintro ⟨node, others, first, draws, rfl⟩
            exact ⟨[], node, warnings, ⟨first, rfl⟩,
              ⟨warnings, others, [], draws, rfl, (List.append_nil warnings).symm⟩, rfl⟩
      | foreign thing =>
          simp only [draws_foreign, leafNodes, Run.bind_eq_ok, Run.ofExcept_eq_ok, ih]
          constructor
          · rintro ⟨_, text, _, ⟨known, rfl⟩, ⟨_, _, others, warned, draws, rfl⟩, rfl⟩
            cases warned
            exact ⟨text, others, known, draws, rfl⟩
          · rintro ⟨text, others, known, draws, rfl⟩
            exact ⟨[], text, _, ⟨known, rfl⟩, ⟨_, (), others, rfl, draws, rfl⟩, rfl⟩

theorem draws_of_leafNodes (drawn : (leafNodes canvas leaves).outcome = .ok nodes) :
    Draws canvas leaves (leafNodes canvas leaves).warnings nodes :=
  leafNodes_eq_ok.1 (congrArg (Run.mk _) drawn)

/-- Leaves are drawn one after the other. -/
theorem leafNodes_append (canvas : Canvas) (before after : List (Leaf Thing)) :
    leafNodes canvas (before ++ after) = do
      let first ← leafNodes canvas before
      let rest ← leafNodes canvas after
      return first ++ rest := by
  induction before with
  | nil => simp only [List.nil_append, leafNodes, pure_bind, bind_pure]
  | cons leaf before ih =>
      cases leaf with
      | shape scene =>
          simp only [List.cons_append, leafNodes, ih, bind_assoc, pure_bind]
      | foreign thing => simp only [List.cons_append, leafNodes, ih, bind_assoc]

/-- A leaf that fails on its own ends the drawing. -/
theorem Fails.leafNodes {leaf : Leaf Thing} (fails : Fails canvas leaf fault) :
    leafNodes canvas (leaf :: rest) = ⟨[], .error fault⟩ := by
  cases fails with
  | shape failed => rw [Drawing.leafNodes, failed, Run.ofExcept_error_bind]
  | foreign failed => rw [Drawing.leafNodes, failed, Run.ofExcept_error_bind]

/-- A leaf can be drawn before any others that can be, or fails on its own. -/
theorem draws_cons_or_fails (canvas : Canvas) (leaf : Leaf Thing) :
    (∀ rest warnings nodes, Draws canvas rest warnings nodes →
      ∃ warnings nodes, Draws canvas (leaf :: rest) warnings nodes) ∨
    ∃ fault, Fails canvas leaf fault := by
  cases leaf with
  | shape scene =>
      cases drawn : shapeNode canvas scene with
      | error fault => exact .inr ⟨fault, .shape drawn⟩
      | ok node =>
          refine .inl fun rest warnings nodes draws => ?_
          exact ⟨warnings, _, draws_shape.2 ⟨node, nodes, drawn, draws, rfl⟩⟩
  | foreign thing =>
      cases shown : Shown.shown thing with
      | error fault => exact .inr ⟨fault, .foreign shown⟩
      | ok text =>
          refine .inl fun rest warnings nodes draws => ?_
          exact ⟨_, nodes, draws_foreign.2 ⟨text, warnings, shown, draws, rfl⟩⟩

/-- Either all leaves can be drawn, or there is a first one that fails on its own. -/
theorem exists_draws_or_fails (canvas : Canvas) (leaves : List (Leaf Thing)) :
    (∃ warnings nodes, Draws canvas leaves warnings nodes) ∨
    ∃ before leaf after warnings nodes fault, leaves = before ++ leaf :: after ∧
      Draws canvas before warnings nodes ∧ Fails canvas leaf fault := by
  induction leaves with
  | nil => exact .inl ⟨[], [], draws_nil.2 ⟨rfl, rfl⟩⟩
  | cons leaf rest ih =>
      rcases draws_cons_or_fails canvas leaf with further | ⟨fault, fails⟩
      · obtain ⟨warnings, nodes, draws⟩ |
          ⟨before, first, after, warnings, nodes, fault, rfl, draws, fails⟩ := ih
        · exact .inl (further rest warnings nodes draws)
        · obtain ⟨warnings, nodes, draws⟩ := further before warnings nodes draws
          exact .inr ⟨leaf :: before, first, after, warnings, nodes, fault, rfl, draws, fails⟩
      · exact .inr ⟨[], leaf, rest, [], [], fault, rfl, draws_nil.2 ⟨rfl, rfl⟩, fails⟩

/-- A drawing fails at the first leaf that fails on its own, after the warnings of the leaves
before it. -/
theorem leafNodes_eq_error : leafNodes canvas leaves = ⟨warnings, .error fault⟩ ↔
    ∃ before leaf after nodes, leaves = before ++ leaf :: after ∧
      Draws canvas before warnings nodes ∧ Fails canvas leaf fault := by
  have ends {before after : List (Leaf Thing)} {leaf : Leaf Thing} {warnings : List Warning}
      {nodes : List (Node String)} {fault : Fault} (draws : Draws canvas before warnings nodes)
      (fails : Fails canvas leaf fault) :
      leafNodes canvas (before ++ leaf :: after) = ⟨warnings, .error fault⟩ := by
    rw [leafNodes_append, leafNodes_eq_ok.2 draws, fails.leafNodes, Run.mk_ok_bind]
    exact congrArg (Run.mk · _) (List.append_nil warnings)
  constructor
  · intro failed
    obtain ⟨others, nodes, draws⟩ |
      ⟨before, leaf, after, others, nodes, found, rfl, draws, fails⟩ :=
        exists_draws_or_fails canvas leaves
    · rw [leafNodes_eq_ok.2 draws] at failed
      cases failed
    · rw [ends draws fails] at failed
      cases failed
      exact ⟨before, leaf, after, nodes, rfl, draws, fails⟩
  · rintro ⟨before, leaf, after, nodes, rfl, draws, fails⟩
    exact ends draws fails

end

end Drawing

end VectorScene
