import TaskSheet.Failure
import TaskSheet.Outline.Reading

/-!
# Compilation

A sheet is compiled to one record for each of its tasks, in order. Either all records
are returned or none is: a sheet that is no document fails at once, and records that do
not satisfy the schema fail together.
-/

namespace TaskSheet

/-- The records of a document. -/
def Document.records (document : Document) (environment : Environment) : List Record :=
  document.tasks.map fun task =>
    Record.ofPrompt (Prompt.render (document.promptContext environment) task)

namespace Compilation

/-- What is announced before it is clear that a sheet is a document. -/
def opening : List Notice := [.extracting, .validating]

/-- What is announced while the tasks of a document are converted and examined. -/
def conversion (tasks : List Task) : List Notice :=
  .converting tasks.length :: Notice.tasksFrom 1 tasks.length tasks ++ [.verifying]

/-- Examines the records of a document. -/
def ofDocument (environment : Environment) (document : Document) : Outcome (List Record) :=
  let records := document.records environment
  let findings := Schema.verifyRecords environment records
  let events := (opening ++ conversion document.tasks).map Event.notice ++
    findings.map Event.finding
  if Schema.passes findings then ⟨events ++ [.notice .finished], .ok records⟩
  else ⟨events, .error (.rejected (findings.filter (·.isError)))⟩

/-- Compiles a sheet. -/
def ofSheet (environment : Environment) (sheet : Text) : Outcome (List Record) :=
  match Document.ofOutline (Outline.ofText sheet) with
  | .error violations => ⟨opening.map Event.notice, .error (.malformed violations)⟩
  | .ok document => ofDocument environment document

end Compilation

end TaskSheet
