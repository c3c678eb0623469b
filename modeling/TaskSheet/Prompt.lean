import TaskSheet.Document
import TaskSheet.Environment
import TaskSheet.Text.Lines
import TaskSheet.Title

/-!
# Prompts

A prompt tells the agent how to carry out one task. It is a sequence of fixed sections,
each a list of lines that is filled in from the document and the environment. All lines
are terminated, and the whole is trimmed at both ends.
-/

namespace TaskSheet

/-- What all prompts of one document share. -/
structure PromptContext where
  /-- The title of the document. -/
  title : Text
  /-- The objective of the document. -/
  objective : Text
  /-- The requirements of the document. -/
  requirements : List Text
  /-- The setting of the agent. -/
  environment : Environment

/-- The shared part of a document's prompts. -/
def Document.promptContext (document : Document) (environment : Environment) : PromptContext :=
  ⟨document.title, document.objective, document.requirements, environment⟩

namespace Prompt

/-- The mark of the line that names the type of a task. -/
def typeHeader : Text := "TASK TYPE:"

/-- The mark of the line that identifies a task. -/
def idHeader : Text := "TASK ID:"

/-- The mark of the line that names the module. -/
def subtaskHeader : Text := "CURRENT SUBTASK:"

/-- The marks by which the agent recognises a task, in their order. -/
def headers : List Text := [typeHeader, idHeader, subtaskHeader]

/-- The identifier of a task whose title carries no number. -/
def unknownId : Text := "unknown"

/-- Lines numbered from the given number on. -/
def numberedFrom (first : Nat) : List Text → List Text
  | [] => []
  | item :: items => (Text.ofNat first ++ ". " ++ item) :: numberedFrom (first + 1) items

/-- Lines numbered from one on. -/
def numbered (items : List Text) : List Text := numberedFrom 1 items

/-- The line with the commands that bring the agent into the project. -/
def setupLine (environment : Environment) : Text :=
  environment.cdCommand ++ " && " ++ environment.activate

/-- The commands that bring the agent into the project. -/
def setupSection (environment : Environment) : List Text := [setupLine environment, []]

/-- The line that names the type of a task. -/
def typeLine : Text := typeHeader ++ " Validation"

/-- The line that identifies a task. -/
def idLine (id : Text) : Text := idHeader ++ " db-validation-" ++ id

/-- The line that names the module. -/
def subtaskLine (module : Text) : Text := subtaskHeader ++ " Validate " ++ module

/-- The lines by which the agent recognises the task. -/
def headerSection (id module : Text) : List Text :=
  [typeLine, idLine id, subtaskLine module, []]

/-- The rules of conduct, and the place of the module. -/
def policyLines (environment : Environment) (module : Text) : List Text :=
  ["- Validation must use real database connections, not mocks",
    "- Results must be verified with both JSON and rich table outputs",
    "- File is located at " ++ environment.modulePath module,
    []]

/-- The objective, the rules of conduct, and the place of the module. -/
def contextSection (context : PromptContext) (module : Text) : List Text :=
  "CONTEXT:" :: ("- " ++ context.objective) :: policyLines context.environment module

/-- The line above the requirements. -/
def requirementsTitle : Text := "REQUIREMENTS:"

/-- The numbered requirements. -/
def requirementsSection (requirements : List Text) : List Text :=
  requirementsTitle :: numbered requirements

/-- The line above the steps. -/
def stepsTitle (module : Text) : Text := "VALIDATION STEPS for " ++ module ++ ":"

/-- The numbered steps of a task. -/
def stepsSection (task : Task) : List Text :=
  [] :: stepsTitle task.module :: (numbered task.steps ++ [[]])

/-- The entry of a module as it stands in the sheet before the task is done. -/
def openEntry (module : Text) : Text := "- [ ] Validate `" ++ module ++ "`"

/-- The entry of a module as the agent leaves it in the sheet. -/
def tickedEntry (module : Text) : Text := "- [x] Validate `" ++ module ++ "`"

/-- The line that names the sheet in which the entry is ticked. -/
def taskFileLine (taskFile : Text) : Text :=
  "   - Update the task list by editing " ++ taskFile

/-- The line that orders to tick the entry. -/
def editLine (module : Text) : Text :=
  "   - Change \"" ++ openEntry module ++ "\" to \"" ++ tickedEntry module ++ "\""

/-- How the agent has to proceed, up to ticking the entry of the module. -/
def instructionsSection (module taskFile : Text) : List Text :=
  ["INSTRUCTIONS:",
    "1. Execute each validation step in sequence",
    "2. For each step:",
    "   - Show the actual code executed with full paths",
    "   - Show the actual output",
    "   - Verify the output matches expectations",
    "   - Include both JSON and rich table outputs where appropriate",
    "3. After completing all steps:",
    taskFileLine taskFile,
    editLine module,
    "   - Document any issues found and fixes applied",
    "   - Confirm all requirements were met",
    "   - Confirm actual database connection was used (no mocks)",
    []]

/-- The line that tells the agent to begin. -/
def beginLine (module : Text) : Text := "Begin validation of " ++ module ++ " now."

/-- The form that the agent fills in at the end, and the signal to begin. -/
def summarySection (module : Text) : List Text :=
  ["After completion, provide summary in this format:",
    [],
    "COMPLETION SUMMARY:",
    "- What was validated:",
    "- Results:",
    "- Files modified:",
    "- Issues encountered:",
    "- Fixes applied:",
    "- Requirements met: [Yes/No with details]",
    "- Used real database: [Confirmed/Not confirmed]",
    [],
    beginLine module]

/-- The identifier of the tasks under a title. -/
def taskId (title : Text) : Text := (Title.findNumber? title).getD unknownId

/-- All lines of a prompt. -/
def promptLines (context : PromptContext) (task : Task) : List Text :=
  setupSection context.environment ++
  headerSection (taskId context.title) task.module ++
  contextSection context task.module ++
  requirementsSection context.requirements ++
  stepsSection task ++
  instructionsSection task.module context.environment.taskFile ++
  summarySection task.module

/-- The prompt for one task. -/
def render (context : PromptContext) (task : Task) : Text :=
  Text.trim (Text.terminated (promptLines context task))

end Prompt

end TaskSheet
