import VectorScene.Proofs.Run
import VectorScene.Session

/-!
# Settings from a request

What a request leaves out is taken from the defaults, one value for one default.  The
settings are made if and only if the values that stand for the sizes are positive
integers, whatever the defaults hold.
-/

namespace VectorScene

open VectorScene.Session

/-- The value of a default. -/
def Defaults.value (defaults : Defaults) : Default → Value
  | .size .width => defaults.width
  | .size .height => defaults.height
  | .strict => defaults.strict
  | .groupId => defaults.groupId

/-- The value that a request gives in place of a default.  A request gives no group. -/
def Request.given (request : Request) : Default → Value
  | .size .width => request.width
  | .size .height => request.height
  | .strict => request.strict
  | .groupId => .absent

/-- The value that a request gives, or the default that it leaves as it is. -/
def Request.chosen (request : Request) (defaults : Defaults) (setting : Default) : Value :=
  (request.given setting).orElse (defaults.value setting)

theorem Value.orElse_of_ne {value : Value} (given : value ≠ .absent) (fallback : Value) :
    value.orElse fallback = value := by
  cases value with
  | absent => exact absurd rfl given
  | flag value => rfl
  | number value => rfl
  | text value => rfl

theorem Request.chosen_of_given {request : Request} {setting : Default}
    (given : request.given setting ≠ .absent) (defaults : Defaults) :
    request.chosen defaults setting = request.given setting :=
  Value.orElse_of_ne given _

/-- A value that is a positive integer.  A flag is none. -/
def Value.IsSize (value : Value) : Prop :=
  ∃ size : Int, 0 < size ∧ value = .number (.integer size)

/-- A value is the size that it is as an integer. -/
theorem Value.size_eq_ok {side : Side} {value : Value} {size : PositiveInt} :
    value.size side = .ok size ↔ value = .number (.integer size.1) := by
  have refused (text : Except Fault String) :
      (text.bind fun shown => .error (.sizeNotPositive side shown)) ≠ .ok size := by
    cases text <;> simp [Except.bind]
  constructor
  · intro sized
    unfold Value.size at sized
    split at sized
    next =>
      split at sized
      next => rw [← Except.ok.inj sized]
      next => exact absurd sized (refused _)
    next => exact absurd sized (refused _)
  · rintro rfl
    rw [Value.size, dif_pos size.2]

theorem Canvas.ofValues_eq_ok {width height : Value} {canvas : Canvas} :
    Canvas.ofValues width height = .ok canvas ↔
      width = .number (.integer canvas.width) ∧ height = .number (.integer canvas.height) := by
  rw [Canvas.ofValues, bind_eq_ok]
  constructor
  · rintro ⟨wide, sized, rest⟩
    rw [bind_eq_ok] at rest
    obtain ⟨high, sizedHeight, same⟩ := rest
    cases same
    exact ⟨Value.size_eq_ok.1 sized, Value.size_eq_ok.1 sizedHeight⟩
  · rintro ⟨sized, sizedHeight⟩
    refine ⟨⟨canvas.width, canvas.width_pos⟩, Value.size_eq_ok.2 sized, ?_⟩
    rw [bind_eq_ok]
    exact ⟨⟨canvas.height, canvas.height_pos⟩, Value.size_eq_ok.2 sizedHeight, rfl⟩

namespace Session

/-- The settings that a request fixes. -/
structure Fixes (defaults : Defaults) (request : Request) (settings : Settings) : Prop where
  width : request.chosen defaults (.size .width) = .number (.integer settings.canvas.width)
  height : request.chosen defaults (.size .height) = .number (.integer settings.canvas.height)
  strict : settings.strict = request.chosen defaults .strict
  normalize : settings.normalize = request.normalize
  groupId : settings.groupId = request.chosen defaults .groupId

theorem make_eq (defaults : Defaults) (request : Request) :
    Settings.make defaults request =
      (Canvas.ofValues (request.chosen defaults (.size .width))
        (request.chosen defaults (.size .height))).map fun canvas =>
          { canvas
            strict := request.chosen defaults .strict
            normalize := request.normalize
            groupId := request.chosen defaults .groupId } := rfl

theorem make_eq_ok {defaults : Defaults} {request : Request} {settings : Settings} :
    Settings.make defaults request = .ok settings ↔ Fixes defaults request settings := by
  rw [make_eq, map_eq_ok]
  constructor
  · rintro ⟨canvas, sized, rfl⟩
    obtain ⟨width, height⟩ := Canvas.ofValues_eq_ok.1 sized
    exact ⟨width, height, rfl, rfl, rfl⟩
  · rintro ⟨width, height, strict, normalize, groupId⟩
    refine ⟨settings.canvas, Canvas.ofValues_eq_ok.2 ⟨width, height⟩, ?_⟩
    rw [← strict, ← normalize, ← groupId]

/-- Settings are made if and only if the sizes are positive integers. -/
theorem exists_fixes {defaults : Defaults} {request : Request} :
    (∃ settings, Fixes defaults request settings) ↔
      (request.chosen defaults (.size .width)).IsSize ∧
        (request.chosen defaults (.size .height)).IsSize := by
  constructor
  · rintro ⟨settings, fixed⟩
    exact ⟨⟨_, settings.canvas.width_pos, fixed.width⟩,
      ⟨_, settings.canvas.height_pos, fixed.height⟩⟩
  · rintro ⟨⟨width, width_pos, chosenWidth⟩, ⟨height, height_pos, chosenHeight⟩⟩
    exact ⟨⟨⟨width, height, width_pos, height_pos⟩, _, _, _⟩,
      ⟨chosenWidth, chosenHeight, rfl, rfl, rfl⟩⟩

/-- A default that a request does not leave as it is does not matter. -/
theorem make_of_given {setting : Default} {left right : Defaults} {request : Request}
    (same : ∀ other, other ≠ setting → left.value other = right.value other)
    (given : request.given setting ≠ .absent) :
    Settings.make left request = Settings.make right request := by
  have chosen (other : Default) : request.chosen left other = request.chosen right other := by
    by_cases equal : other = setting
    · rw [equal, Request.chosen_of_given given, Request.chosen_of_given given]
    · rw [Request.chosen, Request.chosen, same other equal]
  simp only [make_eq, chosen]

@[simp] theorem value_assignedDefault (defaults : Defaults) (value : Value)
    (setting other : Default) :
    (assignedDefault defaults value setting).value other =
      if other = setting then value else defaults.value other := by
  cases setting with
  | size side => cases side <;> rcases other with ⟨_ | _⟩ | _ | _ <;> rfl
  | strict => rcases other with ⟨_ | _⟩ | _ | _ <;> rfl
  | groupId => rcases other with ⟨_ | _⟩ | _ | _ <;> rfl

end Session

end VectorScene
