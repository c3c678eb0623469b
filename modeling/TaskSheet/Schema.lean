import TaskSheet.Environment
import TaskSheet.Prompt
import TaskSheet.Record

/-!
# The schema of task lists

The agent accepts a list of records of a certain form. A record is examined up to its
first fault. One without fault may still have gaps: things that the agent expects but
can do without. Lists are examined as values, so that a list from elsewhere is held to
the same rules as one that was compiled.
-/

namespace TaskSheet.Schema

/-- What makes a record unacceptable. -/
inductive Fault where
  /-- The record is no object. -/
  | notObject
  /-- The record names no tool. -/
  | missingTool
  /-- The tool is another one. -/
  | wrongTool (found : Json)
  /-- The record has no arguments. -/
  | missingArguments
  /-- The arguments are no object. -/
  | wrongArguments (found : Json)
  /-- The arguments hold no command. -/
  | missingCommand
  /-- The command is no string. -/
  | wrongCommand (found : Json)
  /-- The command contains the placeholder of a path. -/
  | placeholder
  /-- The arguments do not mention the permission. -/
  | missingPermission
  /-- The permission is not granted. -/
  | wrongPermission (found : Json)

/-- What a record lacks without becoming unacceptable. -/
inductive Gap where
  /-- The command does not change to the project directory. -/
  | workingDirectory
  /-- The command does not activate the environment. -/
  | activation
  /-- The command does not contain this header. -/
  | header (mark : Text)
  /-- The arguments set no time limit. -/
  | timeout

/-- What is found in a list of records. Records are counted from one. -/
inductive Finding where
  /-- The value is no list. -/
  | notList
  /-- The list is empty. -/
  | emptyList
  /-- A record has a fault. -/
  | fault (record : Nat) (fault : Fault)
  /-- A record has a gap. -/
  | gap (record : Nat) (gap : Gap)

/-- The beginning of paths that were never filled in. -/
def placeholderPath : Text := "/path/to/"

/-- The message of a fault. -/
def Fault.message : Fault → Text
  | notObject => "record is not an object"
  | missingTool => "missing required field 'tool'"
  | wrongTool found =>
    "incorrect tool value. Expected '" ++ Record.toolName ++ "', got " ++ found.compact
  | missingArguments => "missing required field 'arguments'"
  | wrongArguments found => "invalid 'arguments' type. Expected object, got " ++ found.kind
  | missingCommand => "missing required field 'arguments.command'"
  | wrongCommand found => "invalid 'arguments.command' type. Expected string, got " ++ found.kind
  | placeholder => "command contains ambiguous path '" ++ placeholderPath ++ "'"
  | missingPermission => "missing required field 'arguments.dangerously_skip_permissions'"
  | wrongPermission found =>
    "incorrect value for 'arguments.dangerously_skip_permissions'. Expected true, got " ++
      found.compact

/-- The message of a gap. -/
def Gap.message : Gap → Text
  | workingDirectory => "missing explicit working directory command"
  | activation => "missing environment activation"
  | header mark => "missing '" ++ mark ++ "' section"
  | timeout => "missing 'timeout_ms' field"

namespace Finding

/-- Whether a finding makes the list unacceptable. -/
def isError : Finding → Bool
  | notList => true
  | emptyList => false
  | fault _ _ => true
  | gap _ _ => false

/-- The record that a finding is about, if it is about one. -/
def record? : Finding → Option Nat
  | notList => none
  | emptyList => none
  | fault record _ => some record
  | gap record _ => some record

/-- The message of a finding. -/
def message : Finding → Text
  | notList => "invalid format - not a list"
  | emptyList => "empty tasks list"
  | fault _ found => found.message
  | gap _ missing => missing.message

/-- The message of a finding with the number of the record before it. -/
def text (finding : Finding) : Text :=
  match finding.record? with
  | some record => "Task " ++ Text.ofNat record ++ ": " ++ finding.message
  | none => finding.message

end Finding

/-- The tool has to be present and the right one. -/
def checkTool (members : List (Text × Json)) : Except Fault Unit :=
  match members.lookup Record.toolKey with
  | none => .error .missingTool
  | some (.string tool) =>
    if tool = Record.toolName then .ok () else .error (.wrongTool (.string tool))
  | some other => .error (.wrongTool other)

/-- The arguments have to be present and an object. -/
def findArguments (members : List (Text × Json)) : Except Fault (List (Text × Json)) :=
  match members.lookup Record.argumentsKey with
  | none => .error .missingArguments
  | some (.object arguments) => .ok arguments
  | some other => .error (.wrongArguments other)

/-- The command has to be present, a string, and free of the placeholder. -/
def findCommand (arguments : List (Text × Json)) : Except Fault Text :=
  match arguments.lookup Record.commandKey with
  | none => .error .missingCommand
  | some (.string command) =>
    if Text.contains placeholderPath command then .error .placeholder else .ok command
  | some other => .error (.wrongCommand other)

/-- The permission has to be present and granted. -/
def checkPermission (arguments : List (Text × Json)) : Except Fault Unit :=
  match arguments.lookup Record.skipPermissionsKey with
  | none => .error .missingPermission
  | some (.bool true) => .ok ()
  | some other => .error (.wrongPermission other)

/-- The command of a record and all its arguments, or its first fault. -/
def inspect : Json → Except Fault (Text × List (Text × Json))
  | .object members => do
    checkTool members
    let arguments ← findArguments members
    let command ← findCommand arguments
    checkPermission arguments
    return (command, arguments)
  | _ => .error .notObject

/-- The gaps of a record without fault. -/
def gaps (environment : Environment) (command : Text) (arguments : List (Text × Json)) :
    List Gap :=
  (if Text.contains environment.cdCommand command then [] else [.workingDirectory]) ++
  (if Text.contains environment.activate command then [] else [.activation]) ++
  (Prompt.headers.filter fun mark => !Text.contains mark command).map .header ++
  (if (arguments.lookup Record.timeoutKey).isSome then [] else [.timeout])

/-- What is found in the record with the given number. -/
def examine (environment : Environment) (number : Nat) (record : Json) : List Finding :=
  match inspect record with
  | .error fault => [.fault number fault]
  | .ok (command, arguments) => (gaps environment command arguments).map (.gap number)

/-- What is found in records, the first of which has the given number. -/
def examineFrom (environment : Environment) (number : Nat) : List Json → List Finding
  | [] => []
  | record :: records =>
    examine environment number record ++ examineFrom environment (number + 1) records

/-- What is found in a task list for the given environment. -/
def verify (environment : Environment) : Json → List Finding
  | .array [] => [.emptyList]
  | .array records => examineFrom environment 1 records
  | _ => [.notList]

/-- Whether a task list with these findings is acceptable. -/
def passes (findings : List Finding) : Bool := findings.all (!·.isError)

/-- What is found in a list of records for the given environment. -/
def verifyRecords (environment : Environment) (records : List Record) : List Finding :=
  verify environment (Record.listToJson records)

end TaskSheet.Schema
