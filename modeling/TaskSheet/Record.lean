import TaskSheet.Json.Printer

/-!
# Task records

A record hands one prompt to the agent. Written to a file, its members come in a fixed
order; as a value they are sorted by key like those of any other object.
-/

namespace TaskSheet

/-- What the tool is called with. -/
structure Arguments where
  /-- The prompt. -/
  command : Text
  /-- Whether the agent works without asking for permission. -/
  skipPermissions : Bool
  /-- The time that the agent may take, in milliseconds. -/
  timeout : UInt64
  deriving DecidableEq

/-- One call of a tool by the agent. -/
structure Record where
  /-- The name of the tool. -/
  tool : Text
  /-- What the tool is called with. -/
  arguments : Arguments
  deriving DecidableEq

namespace Record

/-- The name of the tool that carries out a prompt. -/
def toolName : Text := "claude_code"

/-- Five minutes. -/
def defaultTimeout : UInt64 := 300000

/-- The record of a prompt. -/
def ofPrompt (prompt : Text) : Record := ⟨toolName, ⟨prompt, true, defaultTimeout⟩⟩

/-- The key of the tool. -/
def toolKey : Text := "tool"

/-- The key of the arguments. -/
def argumentsKey : Text := "arguments"

/-- The key of the prompt. -/
def commandKey : Text := "command"

/-- The key of the permission. -/
def skipPermissionsKey : Text := "dangerously_skip_permissions"

/-- The key of the time limit. -/
def timeoutKey : Text := "timeout_ms"

end Record

/-- The members of the arguments. The order in which they are written is that of the keys. -/
def Arguments.toJson (arguments : Arguments) : Json :=
  .object
    [(Record.commandKey, .string arguments.command),
      (Record.skipPermissionsKey, .bool arguments.skipPermissions),
      (Record.timeoutKey, .number (.int arguments.timeout.toNat))]

namespace Record

/-- A record as a value. -/
def toJson (record : Record) : Json :=
  .object [(argumentsKey, record.arguments.toJson), (toolKey, .string record.tool)]

/-- A record with its members in the order in which they are written. -/
def layout (record : Record) : Json :=
  .object [(toolKey, .string record.tool), (argumentsKey, record.arguments.toJson)]

/-- A list of records as a value. -/
def listToJson (records : List Record) : Json := .array (records.map toJson)

/-- A list of records as it stands in a file. -/
def renderList (records : List Record) : Text := Json.pretty (.array (records.map layout))

end Record

/-- A time limit, which has to be written as an integer. -/
def Arguments.timeoutOfJson? : Json → Option UInt64
  | .number (.int value) =>
    if 0 ≤ value && value.toNat < UInt64.size then some value.toNat.toUInt64 else none
  | _ => none

/-- Reads arguments from their three values. -/
def Arguments.ofValues? : (command skipPermissions timeout : Json) → Option Arguments
  | .string command, .bool skipPermissions, timeout =>
    (timeoutOfJson? timeout).map fun timeout => ⟨command, skipPermissions, timeout⟩
  | _, _, _ => none

/-- Reads arguments from an object, whatever other members it has, or from the array of
the three values. -/
def Arguments.ofJson? : Json → Option Arguments
  | .object members =>
    match members.lookup Record.commandKey, members.lookup Record.skipPermissionsKey,
      members.lookup Record.timeoutKey with
    | some command, some skipPermissions, some timeout =>
      ofValues? command skipPermissions timeout
    | _, _, _ => none
  | .array [command, skipPermissions, timeout] => ofValues? command skipPermissions timeout
  | _ => none

namespace Record

/-- Reads a record from its two values. -/
def ofValues? : (tool arguments : Json) → Option Record
  | .string tool, arguments =>
    (Arguments.ofJson? arguments).map fun arguments => ⟨tool, arguments⟩
  | _, _ => none

/-- Reads a record from an object, whatever other members it has, or from the array of the
two values. -/
def ofJson? : Json → Option Record
  | .object members =>
    match members.lookup toolKey, members.lookup argumentsKey with
    | some tool, some arguments => ofValues? tool arguments
    | _, _ => none
  | .array [tool, arguments] => ofValues? tool arguments
  | _ => none

/-- Reads a list of records. -/
def listOfJson? : Json → Option (List Record)
  | .array items => items.mapM ofJson?
  | _ => none

end Record

end TaskSheet
