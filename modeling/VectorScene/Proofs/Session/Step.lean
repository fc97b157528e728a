import VectorScene.Proofs.Session.Settings

/-!
# Steps of a session

What a step can do to the state of a session, said once.  A conversion changes nothing
but the files, and a step that fails changes nothing at all.
-/

namespace VectorScene.Session

open VectorScene.Markup

/-- Whether a step makes or assigns something.  The other steps convert, or ask. -/
def Step.changes : Step → Bool
  | .make _ | .assign _ _ | .assignDefault _ _ => true
  | _ => false

/-- What a step can do to a session, and what it answers.  A default can be given any
value. -/
inductive Takes (session : Session) : Step → Session → Run Answer → Prop where
  | failed {step : Step} (other : ∀ setting value, step ≠ .assignDefault setting value)
      (warnings : List Warning) (fault : Fault) :
      Takes session step session ⟨warnings, .error fault⟩
  | answered {step : Step} (still : step.changes = false) (answer : Run Answer) :
      Takes session step session answer
  | saved {scene : List Command} {indent : Option Indent} {name : String}
      (warnings : List Warning) (content : String) :
      Takes session (.save scene indent name)
        { session with files := (name, content) :: session.files }
        ⟨warnings, .ok (.saved content)⟩
  | made {request : Request} {settings : Settings}
      (fixed : Fixes session.defaults request settings) :
      Takes session (.make request) { session with settings } ⟨[], .ok (.settings settings)⟩
  | assigned {setting : Setting} {value : Value} {settings : Settings}
      (accepted : assigned session.settings value setting = .ok settings) :
      Takes session (.assign setting value) { session with settings }
        ⟨[], .ok (.settings settings)⟩
  | assignedDefault (setting : Default) (value : Value) :
      Takes session (.assignDefault setting value)
        { session with defaults := assignedDefault session.defaults value setting }
        ⟨[], .ok .nothing⟩

theorem Takes.of_settle {α : Type} {session : Session} {step : Step} {run : Run α}
    {next : α → Session} {answer : α → Answer}
    (other : ∀ setting value, step ≠ .assignDefault setting value)
    (succeeds : ∀ result, run.outcome = .ok result →
      Takes session step (next result) ⟨run.warnings, .ok (answer result)⟩) :
    Takes session step (session.settle run next answer).1 (session.settle run next answer).2 := by
  rw [settle]
  cases ended : run.outcome with
  | ok result => exact succeeds result ended
  | error fault => exact .failed other run.warnings fault

/-- A step does one of the things that it can do. -/
theorem takes_take (session : Session) (step : Step) :
    Takes session step (session.take step).1 (session.take step).2 := by
  cases step with
  | inspect | draw _ | render _ _ | load _ _ | readText _ _ | readTree _ _ | returnByText _ _
  | returnByTree _ _ | redraw _ _ _ => exact .of_settle nofun fun _ _ => .answered rfl _
  | make request =>
      refine .of_settle nofun fun settings made => ?_
      exact .made (make_eq_ok.1 made)
  | assign setting value => exact .of_settle nofun fun settings accepted => .assigned accepted
  | assignDefault setting value => exact .assignedDefault setting value
  | save scene indent name =>
      rw [take]
      split
      · exact .of_settle nofun fun _ _ => .answered rfl _
      · exact .of_settle nofun fun content _ => .saved _ content

/-! ## What a step leaves as it is -/

theorem assigned_canvas {settings result : Settings} {value : Value} {setting : Setting}
    (accepted : assigned settings value setting = .ok result) :
    result.canvas = settings.canvas := by
  cases setting with
  | size side => cases accepted
  | strict | normalize | groupId => rw [← Except.ok.inj accepted]

/-- The canvas that a step made, if it made settings. -/
def madeCanvas? : Step × Run Answer → Option Canvas
  | (.make _, ⟨_, .ok (.settings settings)⟩) => some settings.canvas
  | _ => none

/-- The value that a step assigns to a default, if it assigns one. -/
def Step.assigns? (setting : Default) : Step → Option Value
  | .assignDefault other value => if setting = other then some value else none
  | _ => none

namespace Takes

variable {session next : Session} {step : Step} {answer : Run Answer}

theorem eq_of_failed (takes : Takes session step next answer) {fault : Fault}
    (failed : answer.outcome = .error fault) : next = session := by
  cases takes with
  | failed | answered => rfl
  | saved | made | assigned | assignedDefault => cases failed

theorem kept (takes : Takes session step next answer) (still : step.changes = false) :
    next.settings = session.settings ∧ next.defaults = session.defaults := by
  cases takes with
  | failed | answered | saved => exact ⟨rfl, rfl⟩
  | made | assigned | assignedDefault => cases still

theorem canvas (takes : Takes session step next answer) :
    next.settings.canvas = (madeCanvas? (step, answer)).getD session.settings.canvas := by
  cases takes with
  | failed => cases step <;> rfl
  | answered still => cases step <;> first | rfl | cases still
  | assigned accepted => exact assigned_canvas accepted
  | saved | made | assignedDefault => rfl

theorem value (takes : Takes session step next answer) (setting : Default) :
    next.defaults.value setting =
      (step.assigns? setting).getD (session.defaults.value setting) := by
  cases takes with
  | failed other =>
      cases step with
      | assignDefault found value => exact absurd rfl (other found value)
      | _ => rfl
  | answered still =>
      cases step with
      | assignDefault found value => cases still
      | _ => rfl
  | assignedDefault found value =>
      rw [value_assignedDefault, Step.assigns?]
      split <;> rfl
  | saved | made | assigned => rfl

end Takes

/-! ## Sessions that differ in a default -/

/-- Two sessions that may differ in one default alone. -/
structure AgreeBut (setting : Default) (left right : Session) : Prop where
  settings : left.settings = right.settings
  files : left.files = right.files
  defaults : ∀ other, other ≠ setting → left.defaults.value other = right.defaults.value other

namespace AgreeBut

variable {setting : Default} {left right : Session}

/-- An assigned default is the only difference from the session before. -/
theorem of_assignDefault (session : Session) (setting : Default) (value : Value) :
    AgreeBut setting (session.take (.assignDefault setting value)).1 session := by
  refine ⟨rfl, rfl, fun other different => ?_⟩
  exact (value_assignedDefault _ _ _ _).trans (if_neg different)

theorem settle {α : Type} (agree : AgreeBut setting left right) {run : Run α}
    {nextLeft nextRight : α → Session} {answer : α → Answer}
    (next : ∀ result, AgreeBut setting (nextLeft result) (nextRight result)) :
    AgreeBut setting (left.settle run nextLeft answer).1 (right.settle run nextRight answer).1 ∧
      (left.settle run nextLeft answer).2 = (right.settle run nextRight answer).2 := by
  rw [Session.settle, Session.settle]
  cases run.outcome with
  | ok result => exact ⟨next result, rfl⟩
  | error fault => exact ⟨agree, rfl⟩

/-- A step that does not make settings with the default keeps the difference out of sight. -/
theorem take (agree : AgreeBut setting left right) {step : Step}
    (given : ∀ request, step = .make request → request.given setting ≠ .absent) :
    AgreeBut setting (left.take step).1 (right.take step).1 ∧
      (left.take step).2 = (right.take step).2 := by
  -- The states have the same settings and files, and of the defaults only `make` reads.
  obtain ⟨settings, defaults, files⟩ := left
  obtain ⟨_, others, _⟩ := right
  obtain ⟨rfl, rfl, same⟩ := agree
  have agree : AgreeBut setting ⟨settings, defaults, files⟩ ⟨settings, others, files⟩ :=
    ⟨rfl, rfl, same⟩
  cases step with
  | inspect | draw _ | render _ _ | load _ _ | readText _ _ | readTree _ _ | returnByText _ _
  | returnByTree _ _ | redraw _ _ _ => exact agree.settle fun _ => agree
  | make request =>
      rw [Session.take, Session.take, make_of_given same (given request rfl)]
      exact agree.settle fun _ => ⟨rfl, rfl, same⟩
  | assign setting value => exact agree.settle fun _ => ⟨rfl, rfl, same⟩
  | assignDefault assigned value =>
      refine agree.settle fun _ => ⟨rfl, rfl, fun other different => ?_⟩
      rw [value_assignedDefault, value_assignedDefault, same other different]
  | save scene indent name =>
      rw [Session.take, Session.take]
      split
      · exact agree.settle fun _ => agree
      · exact agree.settle fun _ => ⟨rfl, rfl, same⟩

end AgreeBut

end VectorScene.Session
