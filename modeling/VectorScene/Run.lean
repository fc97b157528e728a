import VectorScene.Scene.Shape

/-!
# Runs

A run of a conversion issues warnings and ends with a result or a fault.  The
warnings before a fault are kept.
-/

namespace VectorScene

/-- What a conversion warns of. -/
inductive Warning where
  /-- A thing in a scene, shown by its text, is no command. -/
  | unsupported (shown : String)
  /-- The group to be read is missing. -/
  | missingGroup (id : String)
  /-- An element of some kind cannot be read. -/
  | skipped (kind : Kind) (cause : Defect)
  deriving DecidableEq

/-- The text of a warning. -/
def Warning.message : Warning → String
  | .unsupported shown => "Skipping unsupported command: " ++ shown
  | .missingGroup id => (Defect.missingGroup id).message
  | .skipped kind cause => "Skipping <" ++ kind.tag ++ ">: " ++ cause.message

/-- The warnings of a conversion in order, and its end. -/
structure Run (α : Type) where
  warnings : List Warning
  outcome : Except Fault α

namespace Run

variable {α β : Type}

/-- A run without warnings. -/
def ofExcept (outcome : Except Fault α) : Run α :=
  ⟨[], outcome⟩

/-- A run that only warns. -/
def warn (warning : Warning) : Run Unit :=
  ⟨[warning], .ok ()⟩

/-- A run that fails. -/
def fail (fault : Fault) : Run α :=
  ⟨[], .error fault⟩

/-- Continue a run with its result. -/
def bind (run : Run α) (next : α → Run β) : Run β :=
  match run.outcome with
  | .ok result => ⟨run.warnings ++ (next result).warnings, (next result).outcome⟩
  | .error fault => ⟨run.warnings, .error fault⟩

instance : Monad Run where
  pure result := ⟨[], .ok result⟩
  bind := bind

end Run

end VectorScene
