import TaskSheet.Text.Basic

/-!
# Documents

A document is a task sheet that is complete: it has everything that a prompt needs.
-/

namespace TaskSheet

/-- A module to validate and the steps of its validation. -/
structure Task where
  /-- The module. -/
  module : Text
  /-- The steps, in order. -/
  steps : List Text
  deriving DecidableEq

/-- A complete task sheet. One module may have several tasks. -/
structure Document where
  /-- The title, with the word `Task` and the number. -/
  title : Text
  /-- The objective. -/
  objective : Text
  /-- The requirements, in order. -/
  requirements : List Text
  /-- The tasks, in order. -/
  tasks : List Task
  deriving DecidableEq

end TaskSheet
