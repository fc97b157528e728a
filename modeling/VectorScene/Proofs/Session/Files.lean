import VectorScene.Proofs.Session.History

/-!
# Files of a session

A text is written to a file as a whole, or not at all.  After any steps, the content of
a file is the text that was written to it last, and reading the file is reading that
text.
-/

namespace VectorScene.Session

/-- The text that the session answers if a scene is to be drawn as a text. -/
def drawnText? (session : Session) (scene : List Command) (indent : Option Markup.Indent) :
    Option String :=
  match (session.take (.render scene indent)).2.outcome with
  | .ok (.text text) => some text
  | _ => none

/-- Every step with the session in which it is taken. -/
def stages (session : Session) : List Step → List (Session × Step)
  | [] => []
  | step :: rest => (session, step) :: (session.take step).1.stages rest

/-- The text that a step writes to a file, if it writes one: what the session in which
the step is taken would answer as the drawing of the scene. -/
def writtenText? (name : String) : Session × Step → Option String
  | (session, .save scene indent other) =>
      if other = name then session.drawnText? scene indent else none
  | _ => none

/-! ## Single steps -/

section

variable {session : Session} {scene : List Command} {indent : Option Markup.Indent}

theorem take_render_ok {text : String}
    (drawn : (Drawing.render session.settings scene indent).outcome = .ok text) :
    session.take (.render scene indent) =
      (session, ⟨(Drawing.render session.settings scene indent).warnings, .ok (.text text)⟩) := by
  rw [take, conclude, settle, drawn]

theorem take_render_error {fault : Fault}
    (failed : (Drawing.render session.settings scene indent).outcome = .error fault) :
    session.take (.render scene indent) =
      (session, ⟨(Drawing.render session.settings scene indent).warnings, .error fault⟩) := by
  rw [take, conclude, settle, failed]

/-- What is answered as a drawing is what the drawing is. -/
theorem drawnText?_eq_some {text : String} :
    session.drawnText? scene indent = some text ↔
      (Drawing.render session.settings scene indent).outcome = .ok text := by
  rw [drawnText?]
  cases drawn : (Drawing.render session.settings scene indent).outcome with
  | ok other =>
      rw [take_render_ok drawn, Option.some.injEq, Except.ok.injEq]
  | error fault =>
      rw [take_render_error drawn]
      exact iff_of_false nofun nofun

theorem take_save_ok {name text : String} (named : name ≠ "")
    (drawn : (Drawing.render session.settings scene indent).outcome = .ok text) :
    session.take (.save scene indent name) =
      ({ session with files := (name, text) :: session.files },
        ⟨(Drawing.render session.settings scene indent).warnings, .ok (.saved text)⟩) := by
  rw [take, if_neg named, settle, drawn]

theorem take_save_error {name : String} {fault : Fault} (named : name ≠ "")
    (failed : (Drawing.render session.settings scene indent).outcome = .error fault) :
    session.take (.save scene indent name) =
      (session, ⟨(Drawing.render session.settings scene indent).warnings, .error fault⟩) := by
  rw [take, if_neg named, settle, failed]

theorem content?_cons (settings : Settings) (defaults : Defaults) (files : List (String × String))
    (written name text : String) :
    (Session.mk settings defaults ((written, text) :: files)).content? name =
      if written = name then some text
      else (Session.mk settings defaults files).content? name := by
  rw [content?, content?, List.lookup_cons]
  by_cases same : written = name
  · rw [if_pos same, same, beq_self_eq_true]
  · rw [if_neg same, beq_eq_false_iff_ne.2 (Ne.symm same)]

theorem files_settle {α : Type} {run : Run α} {next : α → Session} {answer : α → Answer}
    (kept : ∀ result, (next result).files = session.files) :
    (session.settle run next answer).1.files = session.files := by
  rw [settle]
  cases run.outcome with
  | ok result => exact kept result
  | error fault => rfl

end

/-- A step that does not save leaves all files as they are. -/
theorem files_take (session : Session) {step : Step}
    (other : ∀ scene indent name, step ≠ .save scene indent name) :
    (session.take step).1.files = session.files := by
  cases step with
  | save scene indent name => exact absurd rfl (other scene indent name)
  | _ => exact files_settle fun _ => rfl

/-- Saving a drawing changes the file of that name only, if the drawing succeeds. -/
theorem content?_save (session : Session) (scene : List Command) (indent : Option Markup.Indent)
    (written name : String) :
    (session.take (.save scene indent written)).1.content? name =
      if written = name ∧ written ≠ "" then
        (session.drawnText? scene indent).or (session.content? name)
      else session.content? name := by
  by_cases unnamed : written = ""
  · have kept : (session.take (.save scene indent written)).1.files = session.files := by
      rw [take, if_pos unnamed]
      exact files_settle fun _ => rfl
    rw [if_neg fun both => both.2 unnamed, content?, content?, kept]
  · simp only [ne_eq, unnamed, not_false_eq_true, and_true]
    cases drawn : (Drawing.render session.settings scene indent).outcome with
    | ok text =>
        rw [take_save_ok unnamed drawn, content?_cons, drawnText?_eq_some.2 drawn]
        rfl
    | error fault =>
        have undrawn : session.drawnText? scene indent = none := by
          rw [drawnText?, take_render_error drawn]
        rw [take_save_error unnamed drawn, undrawn, Option.none_or, ite_self]

/-- After a step, a file holds what the step wrote to it, or what it held before. -/
theorem content?_take (session : Session) (step : Step) {name : String} (named : name ≠ "") :
    (session.take step).1.content? name =
      (writtenText? name (session, step)).or (session.content? name) := by
  cases step with
  | save scene indent written =>
      rw [content?_save, writtenText?]
      by_cases same : written = name
      · rw [if_pos ⟨same, same ▸ named⟩, if_pos same]
      · rw [if_neg fun both => same both.1, if_neg same, Option.none_or]
  | _ => exact congrArg (List.lookup name) (files_take session nofun)

theorem content?_take_apart (session : Session) {step : Step} {name : String}
    (other : ∀ scene indent, step ≠ .save scene indent name) :
    (session.take step).1.content? name = session.content? name := by
  cases step with
  | save scene indent written =>
      rw [content?_save]
      refine if_neg fun both => ?_
      exact other scene indent (both.1 ▸ rfl)
  | _ => exact congrArg (List.lookup name) (files_take session nofun)

/-! ## Histories -/

theorem getLast?_filterMap_cons {α β : Type} (given? : α → Option β) (first : α) (rest : List α)
    (before : Option β) :
    ((first :: rest).filterMap given?).getLast?.or before =
      (rest.filterMap given?).getLast?.or ((given? first).or before) := by
  cases given : given? first with
  | none => rw [List.filterMap_cons_none given, Option.none_or]
  | some value =>
      rw [List.filterMap_cons_some given, List.getLast?_cons, Option.some_or, Option.some_or]
      cases (rest.filterMap given?).getLast? <;> rfl

/-- A file holds the text that was written to it last. -/
theorem content?_takeAll (session : Session) (steps : List Step) {name : String}
    (named : name ≠ "") :
    (session.takeAll steps).1.content? name =
      ((session.stages steps).filterMap (writtenText? name)).getLast?.or
        (session.content? name) := by
  induction steps generalizing session with
  | nil => rfl
  | cons step rest ih =>
      rw [takeAll_cons, stages, getLast?_filterMap_cons, ← content?_take session step named]
      exact ih (session.take step).1

/-! ## The laws of the files -/

/-- What single steps do to the files of a state. -/
structure FileLaws (session : Session) : Prop where
  /-- A scene that is drawn as a text is saved as this text, with the same warnings. -/
  saved : ∀ scene indent name warnings text, name ≠ "" →
    session.take (.render scene indent) = (session, ⟨warnings, .ok (.text text)⟩) →
    (session.take (.save scene indent name)).2 = ⟨warnings, .ok (.saved text)⟩ ∧
      (session.take (.save scene indent name)).1.content? name = some text
  /-- A scene that cannot be drawn as a text is not saved, for the same fault. -/
  unsaved : ∀ scene indent name warnings fault, name ≠ "" →
    session.take (.render scene indent) = (session, ⟨warnings, .error fault⟩) →
    session.take (.save scene indent name) = (session, ⟨warnings, .error fault⟩)
  /-- Saving that fails leaves all files. -/
  failed : ∀ scene indent name fault,
    (session.take (.save scene indent name)).2.outcome = .error fault →
    (session.take (.save scene indent name)).1.files = session.files
  /-- Whatever is not saved to a file leaves it. -/
  apart : ∀ (step : Step) name, (∀ scene indent, step ≠ .save scene indent name) →
    (session.take step).1.content? name = session.content? name
  /-- Reading a file is reading its content. -/
  loaded : ∀ name text groupId, session.content? name = some text →
    session.take (.load name groupId) = session.take (.readText text groupId)
  /-- A file that was not written cannot be read. -/
  missing : ∀ name groupId, session.content? name = none →
    session.take (.load name groupId) = (session, ⟨[], .error (.unknownFile name)⟩)

theorem fileLaws (session : Session) : FileLaws session where
  saved scene indent name warnings text named drawn := by
    cases ended : (Drawing.render session.settings scene indent).outcome with
    | ok content =>
        rw [take_render_ok ended] at drawn
        cases drawn
        rw [take_save_ok named ended, content?_cons, if_pos rfl]
        exact ⟨rfl, rfl⟩
    | error fault =>
        rw [take_render_error ended] at drawn
        cases drawn
  unsaved scene indent name warnings fault named drawn := by
    cases ended : (Drawing.render session.settings scene indent).outcome with
    | ok content =>
        rw [take_render_ok ended] at drawn
        cases drawn
    | error fault =>
        rw [take_render_error ended] at drawn
        cases drawn
        exact take_save_error named ended
  failed scene indent name fault ended := by
    rw [(takes_take session _).eq_of_failed ended]
  apart step name := content?_take_apart session
  loaded name text groupId written := by
    simp only [take, written, Reading.ofFile_toUTF8]
  missing name groupId unwritten := by
    rw [take, unwritten]
    rfl

theorem content?_start {request : Request} {session : Session}
    (started : start request = .ok session) (name : String) : session.content? name = none := by
  rw [start, map_eq_ok] at started
  obtain ⟨settings, -, rfl⟩ := started
  rfl

/-- After any steps, a file holds the text that was written to it last: what the session
would have answered as a drawing when the text was saved.  A session starts without
files, and the state that it reaches has the laws of files. -/
theorem takeAll_files (session : Session) (steps : List Step) :
    (∀ request, start request = .ok session → ∀ name, session.content? name = none) ∧
    (∀ name, name ≠ "" → (session.takeAll steps).1.content? name =
      ((session.stages steps).filterMap (writtenText? name)).getLast?.or
        (session.content? name)) ∧
    FileLaws (session.takeAll steps).1 := by
  refine ⟨fun request => content?_start, fun name => content?_takeAll session steps, ?_⟩
  exact fileLaws _

/-- A circle somewhere on an axis. -/
def circleAt (x : Value) : List Command :=
  let whole (value : Int) : Value := .number (.integer value)
  [.shape (.circle x (whole 0) (whole 1) (whole 0x993399FF))]

/-- Two files are written, one of them twice.  Of two more attempts, one meets a missing
coordinate and one an identifier that is no text. -/
def rewriting : List Step :=
  let whole (value : Int) : Value := .number (.integer value)
  [.save (circleAt (whole 3)) none "a.svg",
   .save (circleAt (whole 0)) (some (.spaces 1)) "b.svg",
   .make ⟨whole 4, whole 2, .absent, .flag false⟩,
   .save (circleAt (whole 1)) none "a.svg",
   .save (circleAt .absent) none "a.svg",
   .assign .groupId (whole 5),
   .save (circleAt (whole 0)) none "b.svg",
   .load "a.svg" none]

theorem takeAll_files_rewritten :
    let text := "<svg xmlns=\"http://www.w3.org/2000/svg\" " ++
      "xmlns:xlink=\"http://www.w3.org/1999/xlink\" width=\"4\" height=\"2\">" ++
      "<g id=\"main_group\">" ++
      "<circle cx=\"4\" cy=\"1\" r=\"4\" style=\"fill:none;stroke:#993399\" /></g></svg>"
    let reached := (landscape.takeAll rewriting).1
    reached.content? "a.svg" = some text ∧
      reached.content? "b.svg" =
        landscape.drawnText? (circleAt (.number (.integer 0))) (some (.spaces 1)) ∧
      (∀ groupId, reached.take (.load "a.svg" groupId) = reached.take (.readText text groupId)) ∧
      ∃ warnings, reached.take (.save (circleAt .absent) none "a.svg") =
        (reached, ⟨warnings, .error .notNumeric⟩) := by
  intro text reached
  obtain ⟨-, contents, laws⟩ := takeAll_files landscape rewriting
  have first : reached.content? "a.svg" = some text := by
    rw [contents "a.svg" (by decide)]
    decide +kernel
  have failed : (Drawing.render reached.settings (circleAt .absent) none).outcome =
      .error .notNumeric := rfl
  refine ⟨first, ?_, fun groupId => laws.loaded _ _ groupId first, _,
    laws.unsaved _ _ _ _ _ (by decide) (take_render_error failed)⟩
  rw [contents "b.svg" (by decide)]
  decide +kernel

end VectorScene.Session
