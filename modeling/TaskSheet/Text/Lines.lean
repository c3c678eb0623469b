import TaskSheet.Text.Blank

/-!
# Lines

A line ends at a line feed, and a carriage return directly before that line feed
belongs to the ending. Any other carriage return is an ordinary character, and
nothing follows the last line feed unless a character does.
-/

namespace TaskSheet.Text

/-- The lines of a text, without their endings. -/
def lines : Text → List Text
  | [] => []
  | '\n' :: text => [] :: lines text
  | '\r' :: '\n' :: text => [] :: lines text
  | c :: text =>
    match lines text with
    | [] => [[c]]
    | line :: rest => (c :: line) :: rest

/-- Lines put together with a line feed between each two of them. -/
def unlines (parts : List Text) : Text := List.intercalate ['\n'] parts

/-- Lines put together with a line feed after each of them. -/
def terminated (parts : List Text) : Text := parts.flatMap (· ++ ['\n'])

/-- Lines that come one after the other can be put together separately. -/
theorem terminated_append (first second : List Text) :
    terminated (first ++ second) = terminated first ++ terminated second :=
  List.flatMap_append

/-- A single line is put together as it is. -/
theorem unlines_singleton (part : Text) : unlines [part] = part :=
  List.intercalate_singleton

/-- Behind every line but the last stands a line feed. -/
theorem unlines_cons_cons (part next : Text) (parts : List Text) :
    unlines (part :: next :: parts) = part ++ '\n' :: unlines (next :: parts) := by
  simp [unlines, List.intercalate_cons_cons]

/-- A text has no line exactly when it is empty. -/
theorem lines_eq_nil_iff {text : Text} : lines text = [] ↔ text = [] := by
  fun_cases lines text <;> simp

end TaskSheet.Text
