import TaskSheet.CommandLine.Arguments
import TaskSheet.Text.Visible
import TaskSheet.Workspace

/-!
# Runs of the command

A run reads its arguments, chooses a mode, and reports what has happened: the exit
status, the text on standard output, the log, and the files as it leaves them.
-/

namespace TaskSheet.CommandLine

/-- What a run does with the sheet. -/
inductive Mode where
  /-- The records are written to a file. -/
  | file (path : Bytes)
  /-- The records are printed. -/
  | json
  /-- The sheet is only checked. -/
  | check
  deriving DecidableEq

/-- Why settings do not determine a mode. -/
inductive ModeError where
  /-- The records should be printed and written. -/
  | printedAndWritten
  /-- A file should be written by a check. -/
  | checkedAndWritten
  /-- Nothing should be done with the records. -/
  | noOutput
  deriving DecidableEq

/-- The message about settings that do not determine a mode. -/
def ModeError.message : ModeError → Text
  | printedAndWritten => "--json-output takes no output path"
  | checkedAndWritten => "--check takes no output path"
  | noOutput => "an output path is required unless --json-output or --check is given"

/-- The mode that the settings determine. -/
def Settings.mode (settings : Settings) : Except ModeError Mode :=
  match settings.output, settings.jsonOutput, settings.check with
  | some _, true, _ => .error .printedAndWritten
  | some _, false, true => .error .checkedAndWritten
  | some path, false, false => .ok (.file path)
  | none, true, _ => .ok .json
  | none, false, true => .ok .check
  | none, false, false => .error .noOutput

/-- The setting of the agent for a run in the given directory. Paths are written into it as
they are shown. -/
def Settings.environment (settings : Settings) (directory : Location) : Environment :=
  { projectDir := Path.display (settings.projectDir.getD directory.path)
    activate := settings.activate
    taskFile := Path.display (Path.absolute directory.path settings.input) }

/-- The weight of an entry in the log. -/
inductive Level where
  | info
  | warn
  | error
  deriving DecidableEq

/-- The name of a level. -/
def Level.name : Level → Text
  | info => "INFO"
  | warn => "WARN"
  | error => "ERROR"

/-- An entry in the log. -/
structure LogEntry where
  /-- Its weight. -/
  level : Level
  /-- Its message. -/
  message : Text
  deriving DecidableEq

namespace LogEntry

/-- The entry with a message, in which control characters are made visible. -/
def ofMessage (level : Level) (message : Text) : LogEntry := ⟨level, Text.visible message⟩

/-- The entry for something that happens in a run. -/
def ofEvent : Event → LogEntry
  | .notice notice =>
    ofMessage .info ("[Progress] " ++ notice.detail ++ " stage=" ++ notice.stage.name)
  | .finding finding => ofMessage (if finding.isError then .error else .warn) finding.text

/-- The entry for the failure of a run. -/
def ofFailure (reason : Text) : LogEntry :=
  ofMessage .error ("Error during conversion: " ++ reason)

/-- The entry with which the conversion of a sheet begins. -/
def processing (input : Bytes) : LogEntry :=
  ofMessage .info ("processing '" ++ Path.display input ++ "'")

/-- The entry for records that have been written. -/
def saved (count : Nat) (output : Bytes) : LogEntry :=
  ofMessage .info
    ("converted markdown to " ++ Text.ofNat count ++ " validation tasks, saved to '" ++
      Path.display output ++ "'")

/-- The entry for a sheet without violations. -/
def valid (input : Bytes) : LogEntry :=
  ofMessage .info ("'" ++ Path.display input ++ "' is a valid task file")

/-- The entry for a violation. -/
def ofViolation (violation : Violation) : LogEntry := ofMessage .error violation.message

end LogEntry

/-- What a run leaves behind. -/
structure Report where
  /-- The exit status. -/
  exit : Nat
  /-- The text on standard output. -/
  stdout : Text
  /-- The log. -/
  log : List LogEntry
  /-- The files. -/
  files : FileSystem

/-- The name and the version of the command. -/
def versionLine : Text := "tasksmith 0.1.0\n"

/-- How the command is called. -/
def usage : Text :=
  "Usage: tasksmith [OPTIONS] <INPUT> [OUTPUT]\n\n" ++
  "  <INPUT>              Task sheet to compile\n" ++
  "  [OUTPUT]             File to write the records to\n" ++
  "  --json-output        Print the records\n" ++
  "  --check              Only check the sheet\n" ++
  "  --project-dir <DIR>  Directory in which the agent works [env: TASKSMITH_PROJECT_DIR]\n" ++
  "  --activate <COMMAND> Command that activates the environment [env: TASKSMITH_ACTIVATE]\n" ++
  "  -h, --help           Print this text\n" ++
  "  -V, --version        Print the version\n"

/-- Compiles the sheet that the settings name. -/
def compile (files : FileSystem) (settings : Settings) : Outcome (List Record) :=
  Workspace.compile files (settings.environment files.workingDirectory) settings.input

/-- What is logged while a sheet is compiled. -/
def compileLog (settings : Settings) (outcome : Outcome (List Record)) : List LogEntry :=
  .processing settings.input :: outcome.events.map LogEntry.ofEvent

/-- Writes the records to a file. -/
def runFile (files : FileSystem) (settings : Settings) (output : Bytes) : Report :=
  let outcome := compile files settings
  let log := compileLog settings outcome
  match outcome.result with
  | .error failure => ⟨1, [], log ++ [.ofFailure failure.chain], files⟩
  | .ok records =>
    match Workspace.save files output records with
    | (left, .error failure) => ⟨1, [], log ++ [.ofFailure failure.chain], left⟩
    | (left, .ok ()) => ⟨0, [], log ++ [.saved records.length output], left⟩

/-- Prints the records. -/
def runJson (files : FileSystem) (settings : Settings) : Report :=
  let outcome := compile files settings
  let log := compileLog settings outcome
  match outcome.result with
  | .error failure => ⟨1, [], log ++ [.ofFailure failure.chain], files⟩
  | .ok records => ⟨0, Record.renderList records ++ ['\n'], log, files⟩

/-- Checks the sheet. -/
def runCheck (files : FileSystem) (settings : Settings) : Report :=
  let outcome := Workspace.check files settings.input
  let log := outcome.events.map LogEntry.ofEvent
  match outcome.result with
  | .error failure => ⟨1, [], log ++ [.ofFailure failure.chain], files⟩
  | .ok [] => ⟨0, [], log ++ [.valid settings.input], files⟩
  | .ok violations => ⟨1, [], log ++ violations.map .ofViolation, files⟩

/-- Does what the settings ask for. -/
def runSettings (files : FileSystem) (settings : Settings) : Report :=
  match settings.mode with
  | .error fault => ⟨1, [], [.ofFailure fault.message], files⟩
  | .ok (.file output) => runFile files settings output
  | .ok .json => runJson files settings
  | .ok .check => runCheck files settings

/-- Runs the command. -/
def run (files : FileSystem) (arguments : List Bytes) (fallbacks : Variables) : Report :=
  match Settings.parse arguments fallbacks with
  | .ok settings => runSettings files settings
  | .error .displayHelp => ⟨0, usage, [], files⟩
  | .error .displayVersion => ⟨0, versionLine, [], files⟩
  | .error fault => ⟨fault.exitStatus, [], [], files⟩

end TaskSheet.CommandLine
