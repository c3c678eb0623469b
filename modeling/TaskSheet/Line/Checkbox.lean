import TaskSheet.Text.Blank

/-!
# Checkboxes

A checkbox line is an indentation, a list marker, a box and a text. The marker is a dash
or a star with a space, or a number with a point and a blank. The box is open or ticked.
-/

namespace TaskSheet

/-- The kind of list to which a line belongs. -/
inductive Marker where
  /-- A dash or a star. -/
  | bullet
  /-- A number with a point. -/
  | numbered
  deriving DecidableEq

/-- A checkbox line. -/
structure Checkbox where
  /-- The number of blanks before the marker. -/
  indent : Nat
  /-- The list marker. -/
  marker : Marker
  /-- Whether the box is ticked. -/
  checked : Bool
  /-- The trimmed text behind the box. -/
  text : Text
  deriving DecidableEq

/-- Reads a list marker. Behind a number the blank is left in the rest. -/
def Marker.parse? (body : Text) : Option (Marker × Text) :=
  match body with
  | '-' :: ' ' :: rest => some (bullet, rest)
  | '*' :: ' ' :: rest => some (bullet, rest)
  | body =>
    match body.takeWhile Char.isDigit, body.dropWhile Char.isDigit with
    | _ :: _, '.' :: rest => if Text.indent rest = 0 then none else some (numbered, rest)
    | _, _ => none

namespace Checkbox

/-- Reads a box, and whether it is ticked. -/
def parseBox? : Text → Option (Bool × Text)
  | '[' :: ' ' :: ']' :: rest => some (false, rest)
  | '[' :: ']' :: rest => some (false, rest)
  | '[' :: 'x' :: ']' :: rest => some (true, rest)
  | '[' :: 'X' :: ']' :: rest => some (true, rest)
  | _ => none

/-- Reads a line as a checkbox with a text. -/
def parse? (line : Text) : Option Checkbox :=
  match Marker.parse? (Text.trimStart line) with
  | none => none
  | some (marker, rest) =>
    match parseBox? (Text.trimStart rest) with
    | none => none
    | some (checked, rest) =>
      let text := Text.trim rest
      if text.isEmpty then none else some ⟨Text.indent line, marker, checked, text⟩

end Checkbox

end TaskSheet
