import VectorScene.Drawing.Scene
import VectorScene.Reading

/-!
# Sessions

A session is a sequence of steps that share settings, defaults and files.  A step
answers with a run, and one that fails leaves everything as it was.
-/

namespace VectorScene

open VectorScene.Markup VectorScene.Reading

/-- The state of a session.  Of the entries with one name, the first is the
content of that file, a text that is stored in UTF-8. -/
structure Session where
  settings : Settings
  defaults : Defaults
  files : List (String × String)

namespace Session

/-- What can be assigned in the settings. -/
inductive Setting where
  | size (side : Side)
  | strict
  | normalize
  | groupId
  deriving DecidableEq

/-- What can be assigned in the defaults. -/
inductive Default where
  | size (side : Side)
  | strict
  | groupId
  deriving DecidableEq

/-- A step of a session. -/
inductive Step where
  /-- Ask for the settings. -/
  | inspect
  /-- Make new settings. -/
  | make (request : Request)
  /-- Assign a setting. -/
  | assign (setting : Setting) (value : Value)
  /-- Assign a default. -/
  | assignDefault (setting : Default) (value : Value)
  /-- Draw a scene. -/
  | draw (scene : List Command)
  /-- Draw a scene as a text. -/
  | render (scene : List Command) (indent : Option Indent)
  /-- Draw a scene as a text into a file.  An empty name is no file, and the text is
  the answer. -/
  | save (scene : List Command) (indent : Option Indent) (name : String)
  /-- Read a scene from a file. -/
  | load (name : String) (groupId : Option String)
  /-- Read a scene from a text. -/
  | readText (text : String) (groupId : Option String)
  /-- Read a scene from a tree. -/
  | readTree (tree : Node String) (groupId : Option String)
  /-- Draw a scene as a text and read it again. -/
  | returnByText (scene : List Command) (groupId : Option String)
  /-- Draw a scene and read the drawing. -/
  | returnByTree (scene : List Command) (groupId : Option String)
  /-- Read a scene from a text and draw it as a text. -/
  | redraw (text : String) (groupId : Option String) (indent : Option Indent)

/-- What a step answers. -/
inductive Answer where
  | nothing
  | settings (settings : Settings)
  | document (document : Drawing.Document)
  | text (text : String)
  | saved (content : String)
  | shapes (shapes : List ReadShape)

/-- Settings with a value assigned.  The size is fixed. -/
def assigned (settings : Settings) (value : Value) : Setting → Except Fault Settings
  | .size side => .error (.fixedSize side)
  | .strict => .ok { settings with strict := value }
  | .normalize => .ok { settings with normalize := value }
  | .groupId => .ok { settings with groupId := value }

/-- Defaults with a value assigned. -/
def assignedDefault (defaults : Defaults) (value : Value) : Default → Defaults
  | .size .width => { defaults with width := value }
  | .size .height => { defaults with height := value }
  | .strict => { defaults with strict := value }
  | .groupId => { defaults with groupId := value }

/-- The content of a file. -/
def content? (session : Session) (name : String) : Option String :=
  session.files.lookup name

/-- The state and the answer after a run, where a failed run changes nothing. -/
def settle {α : Type} (session : Session) (run : Run α) (next : α → Session)
    (answer : α → Answer) : Session × Run Answer :=
  match run.outcome with
  | .ok result => (next result, ⟨run.warnings, .ok (answer result)⟩)
  | .error fault => (session, ⟨run.warnings, .error fault⟩)

/-- A step that only answers. -/
def conclude {α : Type} (session : Session) (run : Run α) (answer : α → Answer) :
    Session × Run Answer :=
  session.settle run (fun _ => session) answer

/-- Take a step. -/
def take (session : Session) : Step → Session × Run Answer
  | .inspect => session.conclude (return session.settings) .settings
  | .make request =>
      session.settle (Run.ofExcept (Settings.make session.defaults request))
        (fun settings => { session with settings }) .settings
  | .assign setting value =>
      session.settle (Run.ofExcept (assigned session.settings value setting))
        (fun settings => { session with settings }) .settings
  | .assignDefault setting value =>
      session.settle (return ())
        (fun _ => { session with defaults := assignedDefault session.defaults value setting })
        (fun _ => .nothing)
  | .draw scene => session.conclude (Drawing.ofScene session.settings scene) .document
  | .render scene indent =>
      session.conclude (Drawing.render session.settings scene indent) .text
  | .save scene indent name =>
      if name = "" then
        session.conclude (Drawing.render session.settings scene indent) .text
      else
        session.settle (Drawing.render session.settings scene indent)
          (fun content => { session with files := (name, content) :: session.files }) .saved
  | .load name groupId =>
      session.conclude
        (match session.content? name with
          | some content => Reading.ofFile session.settings groupId content.toUTF8
          | none => Run.fail (.unknownFile name))
        .shapes
  | .readText text groupId =>
      session.conclude (Reading.ofText session.settings groupId text) .shapes
  | .readTree tree groupId =>
      session.conclude (Reading.ofTree session.settings groupId tree) .shapes
  | .returnByText scene groupId =>
      session.conclude
        (do
          let text ← Drawing.render session.settings scene none
          Reading.ofText session.settings groupId text)
        .shapes
  | .returnByTree scene groupId =>
      session.conclude
        (do
          let document ← Drawing.ofScene session.settings scene
          Reading.ofTree session.settings groupId document.readable)
        .shapes
  | .redraw text groupId indent =>
      session.conclude
        (do
          let shapes ← Reading.ofText session.settings groupId text
          let scene : List Command := shapes.map fun shape => .shape (toScene shape)
          Drawing.render session.settings scene indent)
        .text

/-- Take steps one after the other. -/
def takeAll (session : Session) : List Step → Session × List (Run Answer)
  | [] => (session, [])
  | step :: rest =>
      let (next, answer) := session.take step
      let (last, answers) := next.takeAll rest
      (last, answer :: answers)

/-- The session at its start. -/
def start (request : Request) : Except Fault Session :=
  (Settings.make .initial request).map fun settings =>
    { settings, defaults := .initial, files := [] }

end Session

end VectorScene
