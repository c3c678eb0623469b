import TaskSheet.Line.Checkbox

/-!
# Steps and module entries

Only checkboxes that are written exactly as an open dash box count as work to do: the
agent later replaces that very text. An entry names a module between backquotes; a step
is any such line that is indented far enough.
-/

namespace TaskSheet

/-- The written form of an open box with a dash. -/
def openBox : Text := "- [ ] "

/-- The character that surrounds the name of a module. -/
def backquote : Char := '\x60'

/-- Whether a line is, apart from its indentation, an open box with a dash. -/
def isOpenBox (line : Text) : Bool := openBox.isPrefixOf (Text.trimStart line)

/-- The text of a step with at least the given indentation. -/
def stepText? (least : Nat) (line : Text) : Option Text :=
  if isOpenBox line then
    match Checkbox.parse? line with
    | some box => if box.indent < least then none else some box.text
    | none => none
  else none

/-- The text up to the next backquote, if it is not empty and there is one. -/
def quotedName? (text : Text) : Option Text :=
  let name := text.takeWhile (· != backquote)
  if name.isEmpty || name.length = text.length then none else some name

/-- The module that an entry names. -/
def entryModule? (line : Text) : Option Text :=
  if isOpenBox line then
    match Checkbox.parse? line with
    | some box => (Text.after? "Validate `" box.text).bind quotedName?
    | none => none
  else none

end TaskSheet
