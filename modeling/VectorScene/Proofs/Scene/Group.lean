import Mathlib.Logic.Relation
import VectorScene.Scene.Command

/-!
# Groups in scenes

Putting commands into a group, or taking a group apart, keeps the leaves of a scene and
their order.  Conversely, scenes with the same leaves differ in their groups only.
-/

namespace VectorScene

variable {Thing : Type}

/-- Two scenes of which the second has one more group, which holds commands that follow each
other in the first, at any depth. -/
inductive Encloses : List (Command Thing) → List (Command Thing) → Prop where
  | wrap (before inner after : List (Command Thing)) :
      Encloses (before ++ inner ++ after) (before ++ [.glow inner] ++ after)
  | inside (before after : List (Command Thing)) {content grouped : List (Command Thing)} :
      Encloses content grouped →
      Encloses (before ++ [.glow content] ++ after) (before ++ [.glow grouped] ++ after)

/-- Scenes that become equal by putting commands into groups and taking groups apart. -/
abbrev SameUpToGroups : List (Command Thing) → List (Command Thing) → Prop :=
  Relation.EqvGen Encloses

theorem flatten_glow (content : List (Command Thing)) :
    flatten [.glow content] = flatten content := by
  rw [flatten, Command.leaves, flatten, List.append_nil]

theorem Encloses.flatten_eq {scene grouped : List (Command Thing)}
    (encloses : Encloses scene grouped) : flatten scene = flatten grouped := by
  induction encloses with
  | wrap before inner after => simp only [flatten_append, flatten_glow]
  | inside before after _ ih => simp only [flatten_append, flatten_glow, ih]

/-- Commands around two scenes do not matter. -/
theorem Encloses.between {scene grouped : List (Command Thing)} (encloses : Encloses scene grouped)
    (before after : List (Command Thing)) :
    Encloses (before ++ scene ++ after) (before ++ grouped ++ after) := by
  cases encloses with
  | wrap inner content outer =>
      have wrapped := Encloses.wrap (before ++ inner) content (outer ++ after)
      simpa only [List.append_assoc] using wrapped
  | inside inner outer encloses =>
      have enclosed := Encloses.inside (before ++ inner) (outer ++ after) encloses
      simpa only [List.append_assoc] using enclosed

namespace SameUpToGroups

theorem between {scene other : List (Command Thing)} (same : SameUpToGroups scene other)
    (before after : List (Command Thing)) :
    SameUpToGroups (before ++ scene ++ after) (before ++ other ++ after) := by
  induction same with
  | rel scene other encloses => exact .rel _ _ (encloses.between before after)
  | refl scene => exact .refl _
  | symm scene other _ ih => exact .symm _ _ ih
  | trans scene other third _ _ first second => exact .trans _ _ _ first second

theorem append {scene other rest others : List (Command Thing)} (same : SameUpToGroups scene other)
    (sameRest : SameUpToGroups rest others) :
    SameUpToGroups (scene ++ rest) (other ++ others) := by
  have first : SameUpToGroups (scene ++ rest) (other ++ rest) := same.between [] rest
  have second := sameRest.between other []
  rw [List.append_nil, List.append_nil] at second
  exact .trans _ _ _ first second

/-- A group can be taken apart. -/
theorem glow (content : List (Command Thing)) : SameUpToGroups [.glow content] content := by
  have wrapped := Encloses.wrap [] content []
  rw [List.append_nil] at wrapped
  exact .symm _ _ (.rel _ _ wrapped)

end SameUpToGroups

mutual

/-- Every command can be taken apart to its leaves. -/
theorem sameUpToGroups_leaves (command : Command Thing) :
    SameUpToGroups [command] (command.leaves.map Leaf.toCommand) := by
  match command with
  | .shape drawn => exact .refl _
  | .glow content =>
      exact .trans _ _ _ (SameUpToGroups.glow content) (sameUpToGroups_flatten content)
  | .foreign thing => exact .refl _

theorem sameUpToGroups_flatten (scene : List (Command Thing)) :
    SameUpToGroups scene ((flatten scene).map Leaf.toCommand) := by
  match scene with
  | [] => exact .refl _
  | command :: rest =>
      rw [flatten, List.map_append]
      exact (sameUpToGroups_leaves command).append (sameUpToGroups_flatten rest)

end

/-- Scenes have the same leaves exactly when they differ in their groups only. -/
theorem sameUpToGroups_iff {scene other : List (Command Thing)} :
    SameUpToGroups scene other ↔ flatten scene = flatten other := by
  constructor
  · intro same
    induction same with
    | rel scene other encloses => exact encloses.flatten_eq
    | refl scene => rfl
    | symm scene other _ ih => exact ih.symm
    | trans scene other third _ _ first second => exact first.trans second
  · intro same
    have apart := sameUpToGroups_flatten scene
    rw [same] at apart
    exact .trans _ _ _ apart (.symm _ _ (sameUpToGroups_flatten other))

end VectorScene
