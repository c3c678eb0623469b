import TaskSheet.Text.Basic

/-!
# Blank characters

The blank characters are the twenty-five code points with the property White_Space.
A text is trimmed by removing the longest blank run at either end.
-/

namespace TaskSheet.Text

/-- The code points with the property White_Space. -/
def isBlank (c : Char) : Bool :=
  let code := c.toNat
  (0x9 ≤ code && code ≤ 0xD) || code == 0x20 || code == 0x85 || code == 0xA0 ||
    code == 0x1680 || (0x2000 ≤ code && code ≤ 0x200A) || code == 0x2028 ||
    code == 0x2029 || code == 0x202F || code == 0x205F || code == 0x3000

/-- The text without the blank run at its start. -/
def trimStart (text : Text) : Text := text.dropWhile isBlank

/-- The text without the blank run at its end. -/
def trimEnd (text : Text) : Text := (text.reverse.dropWhile isBlank).reverse

/-- The text without the blank runs at both ends. -/
def trim (text : Text) : Text := trimEnd (trimStart text)

/-- Whether a text holds nothing but blank characters. -/
def isAllBlank (text : Text) : Bool := text.all isBlank

/-- The number of blank characters before the first other one. -/
def indent (text : Text) : Nat := (text.takeWhile isBlank).length

/-- A text is its blank start followed by what trimming leaves there. -/
theorem takeWhile_append_trimStart (text : Text) :
    text.takeWhile isBlank ++ trimStart text = text :=
  List.takeWhile_append_dropWhile

end TaskSheet.Text
