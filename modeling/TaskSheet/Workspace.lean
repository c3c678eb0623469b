import TaskSheet.Compilation
import TaskSheet.FileSystem.Operations

/-!
# Sheets and records in files

Sheets are read from files and records are written to them. Reading leaves the file
system as it is. Writing makes the directories around the file first.
-/

namespace TaskSheet.Workspace

/-- The sheet that a path means. -/
def load (files : FileSystem) (path : Bytes) : Except Failure Text :=
  match files.readFile path with
  | .error _ => .error (.missingInput path)
  | .ok content =>
    match Text.decode? content with
    | some sheet => .ok sheet
    | none => .error (.io path .notText)

/-- Loads a sheet and goes on with it. -/
def onSheet {α : Type} (files : FileSystem) (path : Bytes) (next : Text → Outcome α) :
    Outcome α :=
  match load files path with
  | .error failure => ⟨[.notice .loading], .error failure⟩
  | .ok sheet =>
    let outcome := next sheet
    ⟨.notice .loading :: outcome.events, outcome.result⟩

/-- A sheet that cannot be loaded ends the run. -/
theorem onSheet_of_error {α : Type} {files : FileSystem} {path : Bytes} {failure : Failure}
    (h : load files path = .error failure) (next : Text → Outcome α) :
    onSheet files path next = ⟨[.notice .loading], .error failure⟩ := by
  rw [onSheet, h]

/-- With a sheet that can be loaded the run goes on. -/
theorem onSheet_of_ok {α : Type} {files : FileSystem} {path : Bytes} {sheet : Text}
    (h : load files path = .ok sheet) (next : Text → Outcome α) :
    onSheet files path next = ⟨.notice .loading :: (next sheet).events, (next sheet).result⟩ := by
  rw [onSheet, h]

/-- Compiles the sheet that a path means. -/
def compile (files : FileSystem) (environment : Environment) (path : Bytes) :
    Outcome (List Record) :=
  onSheet files path (Compilation.ofSheet environment)

/-- The violations of the sheet that a path means. -/
def check (files : FileSystem) (path : Bytes) : Outcome (List Violation) :=
  onSheet files path fun sheet =>
    ⟨Compilation.opening.map Event.notice, .ok (Outline.ofText sheet).violations⟩

/-- Writes bytes to a file after making the directories around it. -/
def write (files : FileSystem) (path : Bytes) (content : ByteArray) :
    FileSystem × Except Failure Unit :=
  let outer := Path.enclosing path
  match files.makeDirectories outer with
  | (made, .error fault) => (made, .error (.io (outer.headD path) fault))
  | (made, .ok ()) =>
    match made.writeFile path content with
    | .error fault => (made, .error (.io path fault))
    | .ok written => (written, .ok ())

/-- Writes records to a file. -/
def save (files : FileSystem) (path : Bytes) (records : List Record) :
    FileSystem × Except Failure Unit :=
  write files path (Text.encode (Record.renderList records))

end TaskSheet.Workspace
