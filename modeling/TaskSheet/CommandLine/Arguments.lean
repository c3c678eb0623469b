import TaskSheet.Environment
import TaskSheet.Text.Utf8

/-!
# Arguments

Arguments are bytes and are read from left to right. A positional argument, and an option together
with the argument that follows it, is only accepted once the next thing is read; an
unknown argument stops the reading at once. Variables stand in for options that are not
given, and rules between options are checked at the very end.
-/

namespace TaskSheet.CommandLine

/-- Why arguments are not accepted, or what they ask for instead of a run. -/
inductive UsageError where
  /-- An argument is not known. -/
  | unknownArgument
  /-- An option is given twice, or together with one that excludes it. -/
  | argumentConflict
  /-- A flag is given a value. -/
  | tooManyValues
  /-- An option is given no value, or a path is empty. -/
  | invalidValue
  /-- A value that has to be text is none. -/
  | invalidUtf8
  /-- The input is not given. -/
  | missingRequiredArgument
  /-- The help text is asked for. -/
  | displayHelp
  /-- The version is asked for. -/
  | displayVersion
  deriving DecidableEq

/-- The exit status for arguments that lead to no run. -/
def UsageError.exitStatus : UsageError → Nat
  | displayHelp => 0
  | displayVersion => 0
  | _ => 1

/-- The variables that stand in for options. -/
structure Variables where
  /-- Stands in for the project directory. -/
  projectDir : Option Bytes
  /-- Stands in for the activation command. -/
  activate : Option Bytes

/-- What a run is asked to do. -/
structure Settings where
  /-- The path of the sheet. -/
  input : Bytes
  /-- The path of the file to write. -/
  output : Option Bytes
  /-- Whether the records are printed. -/
  jsonOutput : Bool
  /-- Whether the sheet is only checked. -/
  check : Bool
  /-- The directory in which the agent works. -/
  projectDir : Option Bytes
  /-- The command that activates the environment of the project. -/
  activate : Text
  deriving DecidableEq

/-- What takes a value. -/
inductive Slot where
  | input
  | output
  | projectDir
  | activate
  deriving DecidableEq

/-- What is a flag. -/
inductive Flag where
  | jsonOutput
  | check
  deriving DecidableEq

/-- Whether the value is a path. -/
def Slot.isPath : Slot → Bool
  | activate => false
  | _ => true

/-- Why a slot refuses a value, if it does. A path must not be empty, and any other value has
to be text. -/
def Slot.refusal? (slot : Slot) (value : Bytes) : Option UsageError :=
  if slot.isPath then if value.isEmpty then some .invalidValue else none
  else if (Text.ofBytes? value).isNone then some .invalidUtf8 else none

/-- What has been read so far. -/
structure Draft where
  /-- The accepted values, the latest first. -/
  values : List (Slot × Bytes)
  /-- The accepted flags. -/
  flags : List Flag
  /-- What has been read but not yet accepted. An option may still lack its value. -/
  pending : Option (Slot × Option Bytes)
  /-- The number of positional arguments. -/
  positionals : Nat
  /-- Whether all further arguments are positional. -/
  literal : Bool

namespace Draft

/-- The draft before the first argument. -/
def empty : Draft := ⟨[], [], none, 0, false⟩

/-- Accepts a value. -/
def store (draft : Draft) (slot : Slot) (value : Bytes) : Except UsageError Draft :=
  if (draft.values.lookup slot).isSome then .error .argumentConflict
  else match slot.refusal? value with
    | some fault => .error fault
    | none => .ok { draft with values := (slot, value) :: draft.values }

/-- Accepts what is pending. -/
def settle (draft : Draft) : Except UsageError Draft :=
  match draft.pending with
  | none => .ok draft
  | some (_, none) => .error .invalidValue
  | some (slot, some value) => { draft with pending := none }.store slot value

/-- Accepts a flag. -/
def raise (draft : Draft) (flag : Flag) : Except UsageError Draft := do
  let draft ← draft.settle
  if draft.flags.contains flag then .error .argumentConflict
  else return { draft with flags := flag :: draft.flags }

/-- Reads an option with the value that is attached to it, or starts to wait for one. -/
def option (draft : Draft) (slot : Slot) (attached : Option Bytes) : Except UsageError Draft := do
  let draft ← draft.settle
  match attached with
  | some value => draft.store slot value
  | none => return { draft with pending := some (slot, none) }

/-- Stops for what is asked for instead of a run. -/
def stop (draft : Draft) (request : UsageError) : Except UsageError Draft := do
  let _ ← draft.settle
  .error request

/-- Reads an argument that begins with two dashes, given its name and attached value. -/
def long (draft : Draft) (name : Bytes) (attached : Option Bytes) : Except UsageError Draft :=
  if name = "project-dir" then draft.option .projectDir attached
  else if name = "activate" then draft.option .activate attached
  else if name = "json-output" then
    if attached.isSome then .error .tooManyValues else draft.raise .jsonOutput
  else if name = "check" then
    if attached.isSome then .error .tooManyValues else draft.raise .check
  else if name = "help" then
    if attached.isSome then .error .tooManyValues else draft.stop .displayHelp
  else if name = "version" then
    if attached.isSome then .error .tooManyValues else draft.stop .displayVersion
  else .error .unknownArgument

/-- Reads an argument that begins with one dash, given the byte behind it. -/
def short (draft : Draft) (letter : UInt8) : Except UsageError Draft :=
  if letter = 'h'.toUInt8 then draft.stop .displayHelp
  else if letter = 'V'.toUInt8 then draft.stop .displayVersion
  else .error .unknownArgument

/-- Reads a positional argument. -/
def positional (draft : Draft) (value : Bytes) : Except UsageError Draft :=
  match draft.positionals with
  | 0 => do
    let draft ← draft.settle
    return { draft with pending := some (.input, some value), positionals := 1 }
  | 1 => do
    let draft ← draft.settle
    return { draft with pending := some (.output, some value), positionals := 2 }
  | _ => .error .unknownArgument

/-- The byte with which options begin. -/
@[match_pattern] def dash : UInt8 := 0x2D

/-- The byte between the name of an option and its value. -/
@[match_pattern] def equals : UInt8 := 0x3D

/-- The value that is attached to the name of an option. -/
def attachment : Bytes → Option Bytes
  | equals :: value => some value
  | _ => none

/-- Reads one argument. -/
def read (draft : Draft) (argument : Bytes) : Except UsageError Draft :=
  if draft.literal then draft.positional argument
  else match argument with
    | [dash, dash] => .ok { draft with literal := true }
    | dash :: dash :: name =>
      draft.long (name.takeWhile (· != equals)) (attachment (name.dropWhile (· != equals)))
    | dash :: letter :: _ => draft.short letter
    | _ =>
      match draft.pending with
      | some (slot, none) => .ok { draft with pending := some (slot, some argument) }
      | _ => draft.positional argument

/-- Lets a variable stand in for an option that is not given. -/
def fallBack (draft : Draft) (slot : Slot) (fallback : Option Bytes) : Except UsageError Draft :=
  match draft.values.lookup slot, fallback with
  | none, some value => draft.store slot value
  | _, _ => .ok draft

/-- The settings that the draft amounts to. -/
def finish (draft : Draft) : Except UsageError Settings :=
  if draft.flags.contains .jsonOutput && draft.flags.contains .check then
    .error .argumentConflict
  else match draft.values.lookup .input with
    | none => .error .missingRequiredArgument
    | some input => .ok
      { input := input
        output := draft.values.lookup .output
        jsonOutput := draft.flags.contains .jsonOutput
        check := draft.flags.contains .check
        projectDir := draft.values.lookup .projectDir
        activate :=
          ((draft.values.lookup .activate).bind Text.ofBytes?).getD Environment.defaultActivate }

end Draft

/-- Reads all arguments. -/
def Settings.parse (arguments : List Bytes) (fallbacks : Variables) :
    Except UsageError Settings := do
  let draft ← arguments.foldlM Draft.read Draft.empty
  let draft ← draft.settle
  let draft ← draft.fallBack .projectDir fallbacks.projectDir
  let draft ← draft.fallBack .activate fallbacks.activate
  draft.finish

end TaskSheet.CommandLine
