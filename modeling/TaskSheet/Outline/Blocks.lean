import TaskSheet.Outline.Basic

/-!
# Blocks

Below an entry stands the run of its steps: lines that are indented deeper than the
entry, and at least three columns. Blank lines belong to the run only where a step
follows them. The next entry is looked for behind the run, so that a line that could be
an entry but stands in a run is a step.
-/

namespace TaskSheet.Outline

/-- The least indentation of a step below any entry. -/
def leastStepIndent : Nat := 3

/-- The least indentation of a step below the entry on this line. -/
def stepIndent (entry : Text) : Nat := max leastStepIndent (Text.indent entry + 1)

/-- The longest run at the start of the lines that consists of steps and of blank lines
before a step. -/
def stepRun (least : Nat) : List Text → List Text
  | [] => []
  | line :: lines =>
    if (stepText? least line).isSome then line :: stepRun least lines
    else if Text.isAllBlank line then
      match stepRun least lines with
      | [] => []
      | run => line :: run
    else []

/-- Every entry outside the runs of earlier entries, with its own run. -/
def findBlocks : List Text → List Block
  | [] => []
  | line :: lines =>
    match entryModule? line with
    | none => findBlocks lines
    | some module =>
      let run := stepRun (stepIndent line) lines
      ⟨module, Text.unlines run⟩ :: findBlocks (lines.drop run.length)
  termination_by lines => lines.length
  decreasing_by
    · simp
    · simp only [List.length_cons, List.length_drop]
      omega

end TaskSheet.Outline
