import TaskSheet.Text.Basic

/-!
# Environments

An environment says where the agent works and which file it reports back to. It comes
from the configuration and never from a sheet.
-/

namespace TaskSheet

/-- The setting in which the agent carries out a task. -/
structure Environment where
  /-- The directory to which the agent changes first. -/
  projectDir : Text
  /-- The command that activates the environment of the project. -/
  activate : Text
  /-- The path of the sheet in which the agent ticks finished entries. -/
  taskFile : Text
  deriving DecidableEq

namespace Environment

/-- The activation command where none is configured. -/
def defaultActivate : Text := "source .venv/bin/activate"

/-- The project directory with exactly one slash at its end. -/
def projectRoot (environment : Environment) : Text :=
  (environment.projectDir.reverse.dropWhile (· == '/')).reverse ++ ['/']

/-- The command that changes to the project directory. -/
def cdCommand (environment : Environment) : Text := "cd " ++ environment.projectRoot

/-- The path of a module inside the project directory. -/
def modulePath (environment : Environment) (module : Text) : Text :=
  environment.projectRoot ++ module.dropWhile (· == '/')

end Environment

end TaskSheet
