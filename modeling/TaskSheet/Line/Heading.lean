import TaskSheet.Text.Blank

/-!
# Headings

A heading is a run of number signs in the first column, a blank, and a text. Whatever
begins with two number signs ends a section, heading or not.
-/

namespace TaskSheet

/-- A heading line. -/
structure Heading where
  /-- The number of number signs. -/
  level : Nat
  /-- The trimmed text behind them. -/
  text : Text
  deriving DecidableEq

namespace Heading

/-- Reads a line as a heading. -/
def parse? (line : Text) : Option Heading :=
  let marks := line.takeWhile (· == '#')
  let rest := line.dropWhile (· == '#')
  let text := Text.trim rest
  if marks.isEmpty || Text.indent rest = 0 || text.isEmpty then none
  else some ⟨marks.length, text⟩

/-- Whether two texts agree once the ASCII capitals in them are made small. -/
def sameName (a b : Text) : Bool := a.map Char.toLower == b.map Char.toLower

/-- Whether a line is the heading of the section with the given name. -/
def opensSection (name line : Text) : Bool :=
  match parse? line with
  | some heading => heading.level == 2 && sameName heading.text name
  | none => false

/-- Whether a line ends the section before it. -/
def breaksSection (line : Text) : Bool := ['#', '#'].isPrefixOf line

end Heading

end TaskSheet
