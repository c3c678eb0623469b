import TaskSheet.Text.Blank

/-!
# Task titles

A task title is the word `Task`, a number and a name, with a colon between the last two.
The number stays a text, so that leading zeros and any length are kept.
-/

namespace TaskSheet

/-- The number of a task and the text behind the colon. -/
structure Title where
  /-- The decimal digits of the number. -/
  number : Text
  /-- Everything behind the colon, blanks included. -/
  name : Text
  deriving DecidableEq

namespace Title

/-- Reads `Task`, at least one blank, at least one digit, a colon, and any name. -/
def parse? (text : Text) : Option Title :=
  match Text.after? "Task" text with
  | none => none
  | some rest =>
    let numbered := Text.trimStart rest
    let number := numbered.takeWhile Char.isDigit
    if Text.indent rest = 0 || number.isEmpty then none
    else match numbered.dropWhile Char.isDigit with
      | ':' :: name => some ⟨number, name⟩
      | _ => none

/-- Whether a text is a task title with a name that is not blank. -/
def isTitle (text : Text) : Bool :=
  match parse? text with
  | some title => !Text.isAllBlank title.name
  | none => false

/-- The number of the first task title that begins anywhere in a text. -/
def findNumber? : Text → Option Text
  | [] => none
  | c :: text =>
    match parse? (c :: text) with
    | some title => some title.number
    | none => findNumber? text

end Title

end TaskSheet
