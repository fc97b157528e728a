import VectorScene.Proofs.Session.Step

/-!
# Histories of a session

After any steps, the canvas is the one that was made last and each default the one that
was assigned last.  Nothing else in the history of a session shows in them.
-/

namespace VectorScene.Session

theorem takeAll_cons (session : Session) (step : Step) (rest : List Step) :
    session.takeAll (step :: rest) =
      (((session.take step).1.takeAll rest).1,
        (session.take step).2 :: ((session.take step).1.takeAll rest).2) := rfl

theorem length_takeAll (session : Session) (steps : List Step) :
    (session.takeAll steps).2.length = steps.length := by
  induction steps generalizing session with
  | nil => rfl
  | cons step rest ih =>
      rw [takeAll_cons, List.length_cons, List.length_cons]
      exact congrArg (· + 1) (ih (session.take step).1)

/-- The last value that a list gives, with another one in front of it. -/
theorem getLastD_filterMap_cons {α β : Type} (given? : α → Option β) (first : α) (rest : List α)
    (before : β) :
    ((first :: rest).filterMap given?).getLastD before =
      (rest.filterMap given?).getLastD ((given? first).getD before) := by
  rw [List.filterMap_cons]
  cases given? first with
  | none => rfl
  | some value => exact List.getLastD_cons

/-- The canvas is the one that was made last. -/
theorem takeAll_canvas (session : Session) (steps : List Step) :
    (session.takeAll steps).1.settings.canvas =
      ((steps.zip (session.takeAll steps).2).filterMap madeCanvas?).getLastD
        session.settings.canvas := by
  induction steps generalizing session with
  | nil => rfl
  | cons step rest ih =>
      rw [takeAll_cons, List.zip_cons_cons, getLastD_filterMap_cons,
        ← (takes_take session step).canvas]
      exact ih (session.take step).1

/-- A default is the one that was assigned last. -/
theorem takeAll_value (session : Session) (steps : List Step) (setting : Default) :
    (session.takeAll steps).1.defaults.value setting =
      (steps.filterMap (Step.assigns? setting)).getLastD (session.defaults.value setting) := by
  induction steps generalizing session with
  | nil => rfl
  | cons step rest ih =>
      rw [takeAll_cons, getLastD_filterMap_cons, ← (takes_take session step).value]
      exact ih (session.take step).1

/-- A difference in a default stays out of sight until settings are made with it. -/
theorem AgreeBut.takeAll {setting : Default} {left right : Session}
    (agree : AgreeBut setting left right) {steps : List Step}
    (given : ∀ request, .make request ∈ steps → request.given setting ≠ .absent) :
    AgreeBut setting (left.takeAll steps).1 (right.takeAll steps).1 ∧
      (left.takeAll steps).2 = (right.takeAll steps).2 := by
  induction steps generalizing left right with
  | nil => exact ⟨agree, rfl⟩
  | cons step rest ih =>
      have now (request : Request) (making : step = .make request) :
          request.given setting ≠ .absent := by
        apply given
        rw [making]
        exact List.mem_cons_self
      have later (request : Request) (making : .make request ∈ rest) :
          request.given setting ≠ .absent :=
        given request (List.mem_cons_of_mem _ making)
      obtain ⟨next, same⟩ := agree.take now
      obtain ⟨last, others⟩ := ih next later
      rw [takeAll_cons, takeAll_cons, same, others]
      exact ⟨last, rfl⟩

/-! ## The laws of a state -/

/-- What single steps do to a state. -/
structure StepLaws (session : Session) : Prop where
  /-- A step that fails changes nothing. -/
  failed : ∀ step fault, (session.take step).2.outcome = .error fault →
    (session.take step).1 = session
  /-- A conversion changes neither the settings nor the defaults. -/
  converted : ∀ step : Step, step.changes = false →
    (session.take step).1.settings = session.settings ∧
      (session.take step).1.defaults = session.defaults
  /-- Settings are made of positive integers, and of nothing else as sizes. -/
  made : ∀ request : Request,
    (request.chosen session.defaults (.size .width)).IsSize →
    (request.chosen session.defaults (.size .height)).IsSize →
    ∃ settings, Fixes session.defaults request settings ∧
      session.take (.make request) = ({ session with settings }, ⟨[], .ok (.settings settings)⟩)
  refused : ∀ request : Request,
    ¬((request.chosen session.defaults (.size .width)).IsSize ∧
      (request.chosen session.defaults (.size .height)).IsSize) →
    ∃ fault, session.take (.make request) = (session, ⟨[], .error fault⟩)
  /-- A size cannot be assigned. -/
  fixedSize : ∀ side value,
    session.take (.assign (.size side) value) = (session, ⟨[], .error (.fixedSize side)⟩)
  /-- What is assigned in the settings leaves the canvas and the defaults. -/
  assigned : ∀ setting value,
    (session.take (.assign setting value)).1.settings.canvas = session.settings.canvas ∧
      (session.take (.assign setting value)).1.defaults = session.defaults
  /-- A default can be assigned, and the settings stay. -/
  assignedDefault : ∀ setting value, ∃ defaults,
    session.take (.assignDefault setting value) =
      ({ session with defaults }, ⟨[], .ok .nothing⟩) ∧
    ∀ other, defaults.value other = if other = setting then value else session.defaults.value other
  /-- An assigned default shows in nothing that follows until a request leaves it out. -/
  unseen : ∀ setting value later,
    (∀ request : Request, .make request ∈ later → request.given setting ≠ .absent) →
    (((session.take (.assignDefault setting value)).1.takeAll later).2 =
      (session.takeAll later).2) ∧
    ((session.take (.assignDefault setting value)).1.takeAll later).1.settings =
      (session.takeAll later).1.settings

theorem take_made {session : Session} {request : Request} {settings : Settings}
    (fixed : Fixes session.defaults request settings) :
    session.take (.make request) = ({ session with settings }, ⟨[], .ok (.settings settings)⟩) := by
  rw [take, make_eq_ok.2 fixed]
  rfl

theorem take_refused {session : Session} {request : Request}
    (refused : ¬∃ settings, Fixes session.defaults request settings) :
    ∃ fault, session.take (.make request) = (session, ⟨[], .error fault⟩) := by
  cases made : Settings.make session.defaults request with
  | ok settings => exact absurd ⟨settings, make_eq_ok.1 made⟩ refused
  | error fault =>
      refine ⟨fault, ?_⟩
      rw [take, made]
      rfl

theorem take_assign_defaults (session : Session) (setting : Setting) (value : Value) :
    (session.take (.assign setting value)).1.defaults = session.defaults := by
  cases setting <;> rfl

theorem stepLaws (session : Session) : StepLaws session where
  failed step fault := (takes_take session step).eq_of_failed
  converted step := (takes_take session step).kept
  made request width height := by
    obtain ⟨settings, fixed⟩ := exists_fixes.2 ⟨width, height⟩
    exact ⟨settings, fixed, take_made fixed⟩
  refused request := by
    rw [← exists_fixes]
    exact take_refused
  fixedSize side value := rfl
  assigned setting value := by
    have canvas := (takes_take session (.assign setting value)).canvas
    exact ⟨canvas, take_assign_defaults session setting value⟩
  assignedDefault setting value :=
    ⟨_, rfl, value_assignedDefault session.defaults value setting⟩
  unseen setting value later given := by
    obtain ⟨agree, same⟩ := (AgreeBut.of_assignDefault session setting value).takeAll given
    exact ⟨same, agree.settings⟩

/-- A session starts with the settings that a request fixes and the initial defaults. -/
theorem fixes_of_start {request : Request} {session : Session}
    (started : start request = .ok session) :
    Fixes .initial request session.settings ∧ session.defaults = .initial := by
  rw [start, map_eq_ok] at started
  obtain ⟨settings, made, rfl⟩ := started
  exact ⟨make_eq_ok.1 made, rfl⟩

/-- After any steps, a session has a canvas of positive size, which is the one that was
made last, the defaults that were assigned last, and the laws of single steps.  This
holds whatever the session started with. -/
theorem takeAll_reaches (session : Session) (steps : List Step) :
    (∀ request, start request = .ok session →
      Fixes .initial request session.settings ∧ session.defaults = .initial) ∧
    ∃ reached answers, session.takeAll steps = (reached, answers) ∧
      answers.length = steps.length ∧
      0 < reached.settings.canvas.width ∧ 0 < reached.settings.canvas.height ∧
      reached.settings.canvas =
        ((steps.zip answers).filterMap madeCanvas?).getLastD session.settings.canvas ∧
      (∀ setting, reached.defaults.value setting =
        (steps.filterMap (Step.assigns? setting)).getLastD (session.defaults.value setting)) ∧
      StepLaws reached := by
  refine ⟨fun request => fixes_of_start, _, _, rfl, length_takeAll session steps, ?_, ?_,
    takeAll_canvas session steps, takeAll_value session steps, stepLaws _⟩
  · exact Canvas.width_pos _
  · exact Canvas.height_pos _

/-- A session that started with a size of its own. -/
def landscape : Session where
  settings := ⟨⟨800, 600, by decide, by decide⟩, .flag false, .flag true, .text "main_group"⟩
  defaults := .initial
  files := []

/-- Steps with one construction that succeeds.  Of the others, one meets a flag in the
defaults and one asks for a width of zero. -/
def resizing : List Step :=
  let whole (value : Int) : Value := .number (.integer value)
  [.assignDefault (.size .width) (.flag true),
   .make ⟨.absent, whole 480, .absent, .flag false⟩,
   .assign (.size .height) (whole 5),
   .assignDefault (.size .width) (whole 640),
   .make ⟨.absent, whole 480, .absent, .flag false⟩,
   .assignDefault .groupId (.text "layer"),
   .render [.shape (.circle (whole 0) (whole 0) (whole 1) (whole 255))] none,
   .make ⟨whole 0, .absent, .absent, .flag false⟩]

theorem takeAll_reaches_resized :
    start ⟨.number (.integer 800), .number (.integer 600), .absent, .flag true⟩ = .ok landscape ∧
      ∃ reached answers, landscape.takeAll resizing = (reached, answers) ∧
        reached.settings.canvas = ⟨640, 480, by decide, by decide⟩ ∧
        reached.settings.groupId = .text "main_group" ∧
        reached.defaults.value .groupId = .text "layer" ∧
        ∃ fault, reached.take (.make ⟨.flag true, .absent, .absent, .absent⟩) =
          (reached, ⟨[], .error fault⟩) := by
  refine ⟨rfl, ?_⟩
  obtain ⟨-, reached, answers, same, -, -, -, canvas, values, laws⟩ :=
    takeAll_reaches landscape resizing
  obtain ⟨rfl, rfl⟩ := Prod.mk.inj same
  refine ⟨_, _, same, ?_, ?_, ?_, ?_⟩
  · rw [canvas]
    decide +kernel
  · decide +kernel
  · rw [values]
    decide
  · apply laws.refused
    rintro ⟨⟨_, _, isFlag⟩, -⟩
    cases isFlag

end VectorScene.Session
