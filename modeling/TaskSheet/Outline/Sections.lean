import TaskSheet.Outline.Basic
import TaskSheet.Line.Heading

/-!
# Title and sections

The title is the first heading of level one. A section is everything between its heading
and the next line that begins with two number signs; of two sections with one name the
first one counts.
-/

namespace TaskSheet.Outline

/-- The text of the first heading of level one. -/
def findTitle? (lines : List Text) : Option Text :=
  ((lines.filterMap Heading.parse?).find? (·.level == 1)).map (·.text)

/-- The lines of the first section with the given name. -/
def sectionLines? (name : Text) : List Text → Option (List Text)
  | [] => none
  | line :: lines =>
    if Heading.opensSection name line then some (lines.takeWhile fun l => !Heading.breaksSection l)
    else sectionLines? name lines

/-- The trimmed text of a section. -/
def objectiveText (body : List Text) : Text := Text.trim (Text.unlines body)

/-- The checkboxes of a section, of which the numbered ones are requirements. -/
def readRequirements (body : List Text) : Requirements :=
  let boxes := body.filterMap Checkbox.parse?
  { items := (boxes.filter (·.marker == .numbered)).map (·.text)
    usesCheckboxes := !boxes.isEmpty }

/-- The objective that the lines of a sheet state. -/
def findObjective? (lines : List Text) : Option Text :=
  (sectionLines? "Objective" lines).map objectiveText

/-- The requirements that the lines of a sheet state. -/
def findRequirements? (lines : List Text) : Option Requirements :=
  (sectionLines? "Requirements" lines).map readRequirements

end TaskSheet.Outline
