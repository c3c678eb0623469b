import TaskSheet.Text.Basic

/-!
# Visible control characters

A log is read on a terminal. Characters with which a text could take control of the
terminal are therefore written as escapes; line feeds, tabs and all other characters
stay as they are.
-/

namespace TaskSheet.Text

/-- The control characters below the second half of Latin-1 on which terminals act: bell,
backspace, form feed, escape and delete. -/
def isTerminalControl (c : Char) : Bool :=
  c == '\x07' || c == '\x08' || c == '\x0c' || c == '\x1b' || c == '\x7f'

/-- The control characters in the second half of Latin-1. -/
def isUpperControl (c : Char) : Bool := 0x80 ≤ c.toNat && c.toNat ≤ 0x9F

/-- What a log shows for a character. -/
def visibleChar (c : Char) : Text :=
  if isTerminalControl c then '\\' :: 'x' :: hexPair c.toNat
  else if isUpperControl c then ['\\', 'u', '\x7b'] ++ hexPair c.toNat ++ ['\x7d']
  else [c]

/-- What a log shows for a text. -/
def visible (text : Text) : Text := text.flatMap visibleChar

end TaskSheet.Text
