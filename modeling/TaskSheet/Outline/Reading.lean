import TaskSheet.Outline.Sections
import TaskSheet.Outline.Blocks

/-!
# Reading a sheet

Title, sections and blocks are found independently of each other in the same lines.
Reading never fails.
-/

namespace TaskSheet.Outline

/-- The outline of the sheet with these lines. -/
def ofLines (lines : List Text) : Outline where
  title := (findTitle? lines).getD untitled
  objective := findObjective? lines
  requirements := findRequirements? lines
  blocks := findBlocks lines

/-- The outline of a sheet. -/
def ofText (sheet : Text) : Outline := ofLines (Text.lines sheet)

end TaskSheet.Outline
