import TaskSheet.Document
import TaskSheet.Outline.Basic
import TaskSheet.Title

/-!
# Violations

An outline becomes a document unless it violates a rule. All rules are tried, each
gives at most one violation, and the violations come in the order of the rules: title,
objective, requirements, presence of tasks, presence of steps.
-/

namespace TaskSheet

/-- A way in which an outline falls short of a document. -/
inductive Violation where
  /-- There is no heading of level one. -/
  | missingTitle
  /-- The heading is no task title. -/
  | invalidTitle (title : Text)
  /-- There is no section with the objective. -/
  | missingObjective
  /-- The section with the objective is blank. -/
  | emptyObjective
  /-- There is no section with the requirements. -/
  | missingRequirements
  /-- No line of that section is a checkbox. -/
  | plainRequirements
  /-- No checkbox of that section is numbered. -/
  | unnumberedRequirements
  /-- There is no entry. -/
  | noTasks
  /-- These modules have entries without steps. -/
  | stepless (modules : List Text)
  deriving DecidableEq

/-- The message that describes a violation and shows the expected form. -/
def Violation.message : Violation → Text
  | missingTitle => "Missing task title. Format: '# Task NNN: Title'"
  | invalidTitle title => "Invalid task title '" ++ title ++ "'. Format: '# Task NNN: Title'"
  | missingObjective => "Missing '## Objective' section. Format: '## Objective\\nDescription'"
  | emptyObjective => "Empty '## Objective' section. Format: '## Objective\\nDescription'"
  | missingRequirements =>
    "Missing '## Requirements' section. Format: '## Requirements\\n1. [ ] Requirement'"
  | plainRequirements => "Requirements should use checkboxes. Format: '1. [ ] Requirement'"
  | unnumberedRequirements =>
    "Requirements section has no numbered items. Format: '1. [ ] Requirement'"
  | noTasks =>
    "No validation tasks found. Format: '- [ ] Validate `file.py`' with indented steps"
  | stepless modules =>
    "Tasks without steps: " ++ List.intercalate ", " modules ++ ". Each task needs indented steps"

/-- The lines of a small sheet in the expected form. -/
def expectedForm : List Text :=
  ["# Task NNN: Title",
    "## Objective",
    "Clear description",
    "## Requirements",
    "1. [ ] First requirement",
    "## Task Section",
    "- [ ] Validate `file.py`",
    "   - [ ] Step 1",
    "   - [ ] Step 2"]

/-- The mark before each message of a report. -/
def messageMark : Text := "  - "

/-- One report of several messages, each on an indented line of its own, with the
expected form below them. -/
def reportText (messages : List Text) : Text :=
  Text.terminated
    ("Markdown format validation failed:" ::
      (messages.map (messageMark ++ ·) ++ [] :: "Required markdown format:" :: expectedForm))

namespace Outline

/-- The violation of the rule for titles. -/
def titleViolations (title : Text) : List Violation :=
  if title = untitled then [.missingTitle]
  else if Title.isTitle title then []
  else [.invalidTitle title]

/-- The violation of the rule for the objective. -/
def objectiveViolations : Option Text → List Violation
  | none => [.missingObjective]
  | some [] => [.emptyObjective]
  | some _ => []

/-- The violation of the rule for the requirements. -/
def requirementViolations : Option Requirements → List Violation
  | none => [.missingRequirements]
  | some requirements =>
    if !requirements.usesCheckboxes then [.plainRequirements]
    else if requirements.items.isEmpty then [.unnumberedRequirements]
    else []

/-- The violation of the rule that there is a task. -/
def taskViolations (blocks : List Block) : List Violation :=
  if blocks.isEmpty then [.noTasks] else []

/-- The violation of the rule that every task has a step. -/
def stepViolations (blocks : List Block) : List Violation :=
  let stepless := (blocks.filter (·.steps.isEmpty)).map (·.module)
  if stepless.isEmpty then [] else [.stepless stepless]

/-- All violations, in the order of the rules. -/
def violations (outline : Outline) : List Violation :=
  titleViolations outline.title ++ objectiveViolations outline.objective ++
    requirementViolations outline.requirements ++ taskViolations outline.blocks ++
    stepViolations outline.blocks

end Outline

/-- The task of a block. -/
def Task.ofBlock (block : Block) : Task := ⟨block.module, block.steps⟩

/-- The document that an outline describes, or what keeps it from being one. -/
def Document.ofOutline (outline : Outline) : Except (List Violation) Document :=
  match outline.violations with
  | [] => .ok
      { title := outline.title
        objective := outline.objective.getD []
        requirements := (outline.requirements.map (·.items)).getD []
        tasks := outline.blocks.map Task.ofBlock }
  | violations => .error violations

end TaskSheet
