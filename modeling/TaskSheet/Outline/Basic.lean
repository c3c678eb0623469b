import TaskSheet.Text.Lines
import TaskSheet.Line.Entry

/-!
# Outlines

An outline is everything that is found in a task sheet before anything is demanded of
it. What is missing shows as `none`, as the placeholder title, or as an empty list.
-/

namespace TaskSheet

/-- The section with the requirements. -/
structure Requirements where
  /-- The text of every numbered checkbox, in order. -/
  items : List Text
  /-- Whether some line is a checkbox of any kind. -/
  usesCheckboxes : Bool
  deriving DecidableEq

/-- An entry with the lines below it that belong to it. -/
structure Block where
  /-- The module that the entry names. -/
  module : Text
  /-- The lines of the steps, with the blank lines between them. -/
  rawSteps : Text
  deriving DecidableEq

/-- What a task sheet was found to contain. -/
structure Outline where
  /-- The text of the first heading of level one, or the placeholder. -/
  title : Text
  /-- The trimmed body of the section with the objective. -/
  objective : Option Text
  /-- The section with the requirements. -/
  requirements : Option Requirements
  /-- The entries, in order. -/
  blocks : List Block
  deriving DecidableEq

/-- The title of a sheet that has no heading of level one. -/
def untitled : Text := "Untitled Task"

/-- The steps of a block, one for each line that is an indented open box. -/
def stepTexts (rawSteps : Text) : List Text := (Text.lines rawSteps).filterMap (stepText? 1)

/-- The steps of a block. -/
def Block.steps (block : Block) : List Text := stepTexts block.rawSteps

end TaskSheet
