import TaskSheet.Schema

/-!
# Progress

A run announces what it does. A notice belongs to one of five stages, which follow each
other in a fixed order. What the final examination finds is announced in between.
-/

namespace TaskSheet

/-- The stages of a run. -/
inductive Stage where
  /-- The sheet is loaded. -/
  | load
  /-- The outline is read. -/
  | extract
  /-- The outline is held to the rules. -/
  | validate
  /-- The prompts are written. -/
  | compile
  /-- The records are held to the schema. -/
  | verifyOutput
  deriving DecidableEq

namespace Stage

/-- The name under which a stage is announced. -/
def name : Stage → Text
  | load => "load"
  | extract => "extract"
  | validate => "validate"
  | compile => "compile"
  | verifyOutput => "verify_output"

/-- The place of a stage in the order. -/
def rank : Stage → Nat
  | load => 0
  | extract => 1
  | validate => 2
  | compile => 3
  | verifyOutput => 4

end Stage

/-- What a run announces about itself. -/
inductive Notice where
  /-- The sheet is about to be loaded. -/
  | loading
  /-- The outline is about to be read. -/
  | extracting
  /-- The outline is about to be held to the rules. -/
  | validating
  /-- This many tasks are about to be converted. -/
  | converting (total : Nat)
  /-- One of the tasks is about to be converted. -/
  | task (number total : Nat) (module : Text)
  /-- The records are about to be held to the schema. -/
  | verifying
  /-- The run has succeeded. -/
  | finished
  deriving DecidableEq

namespace Notice

/-- The stage to which a notice belongs. -/
def stage : Notice → Stage
  | loading => .load
  | extracting => .extract
  | validating => .validate
  | converting _ => .compile
  | task _ _ _ => .compile
  | verifying => .verifyOutput
  | finished => .verifyOutput

/-- The wording of a notice. -/
def detail : Notice → Text
  | loading => "Loading task file..."
  | extracting => "Extracting sections..."
  | validating => "Validating markdown structure..."
  | converting total => "Converting " ++ Text.ofNat total ++ " validation tasks..."
  | task number total module =>
    "Task " ++ Text.ofNat number ++ "/" ++ Text.ofNat total ++ ": Converting " ++ module
  | verifying => "Validating task record format..."
  | finished => "Conversion complete!"

/-- The notices for the tasks from the given number on. -/
def tasksFrom (number total : Nat) : List Task → List Notice
  | [] => []
  | t :: tasks => task number total t.module :: tasksFrom (number + 1) total tasks

end Notice

/-- What happens in a run and is worth telling. -/
inductive Event where
  /-- The run announces what it does. -/
  | notice (notice : Notice)
  /-- The final examination has found something. -/
  | finding (finding : Schema.Finding)

/-- The notices among events. -/
def Event.notices (events : List Event) : List Notice :=
  events.filterMap fun
    | notice n => some n
    | finding _ => none

end TaskSheet
