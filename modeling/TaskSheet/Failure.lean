import TaskSheet.FileSystem.Basic
import TaskSheet.Progress
import TaskSheet.Violation

/-!
# Failures

A run on a sheet can fail in four ways. Each failure keeps its cause.
-/

namespace TaskSheet

/-- Why a run on a sheet fails. -/
inductive Failure where
  /-- The file system refuses an operation on this path. -/
  | io (path : Bytes) (fault : FileSystem.Fault)
  /-- There is no file at this path. -/
  | missingInput (path : Bytes)
  /-- The sheet is no document. -/
  | malformed (violations : List Violation)
  /-- The records do not satisfy the schema. -/
  | rejected (errors : List Schema.Finding)

namespace Failure

/-- The message of a failure. -/
def message : Failure → Text
  | io path fault => Path.display path ++ ": " ++ fault.message
  | missingInput path => "input file '" ++ Path.display path ++ "' does not exist"
  | malformed violations => reportText (violations.map (·.message))
  | rejected errors =>
    "output validation failed: " ++ List.intercalate "; " (errors.map (·.text))

/-- The message of a failure followed by that of the failure behind it, if there is one. -/
def chain (failure : Failure) : Text :=
  match failure with
  | io _ fault => failure.message ++ ": " ++ fault.message
  | _ => failure.message

end Failure

/-- What a run has announced, and how it has ended. -/
structure Outcome (α : Type) where
  /-- What was announced, in order. -/
  events : List Event
  /-- The result. -/
  result : Except Failure α

end TaskSheet
