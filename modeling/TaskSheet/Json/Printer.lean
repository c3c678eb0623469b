import TaskSheet.Json.Numeral
import TaskSheet.Json.Quoted

/-!
# Writing JSON

There are two layouts. The compact one has no blank characters between tokens and is
used where a message quotes a value. The indented one puts every item and every member
on a line of its own, two spaces deeper than its container, and is used for files.
-/

namespace TaskSheet.Json

mutual

/-- A value without blank characters between its tokens. -/
def compact : Json → Text
  | null => "null"
  | bool true => "true"
  | bool false => "false"
  | number value => value.render
  | string value => Quoted.write value
  | array items => '[' :: compactItems items ++ [']']
  | object members => '\x7b' :: compactMembers members ++ ['\x7d']

/-- Items with a comma between each two of them. -/
def compactItems : List Json → Text
  | [] => []
  | [item] => compact item
  | item :: next :: items => compact item ++ ',' :: compactItems (next :: items)

/-- Members with a comma between each two of them. -/
def compactMembers : List (Text × Json) → Text
  | [] => []
  | [(key, value)] => Quoted.write key ++ ':' :: compact value
  | (key, value) :: next :: members =>
    Quoted.write key ++ ':' :: compact value ++ ',' :: compactMembers (next :: members)

end

/-- A new line at the given depth. -/
def newline (depth : Nat) : Text := '\n' :: List.replicate (2 * depth) ' '

mutual

/-- A value laid out over several lines, beginning at the given depth. -/
def indented (depth : Nat) : Json → Text
  | null => "null"
  | bool true => "true"
  | bool false => "false"
  | number value => value.render
  | string value => Quoted.write value
  | array [] => "[]"
  | array (item :: items) =>
    '[' :: newline (depth + 1) ++ indented (depth + 1) item ++
      indentedItems (depth + 1) items ++ newline depth ++ [']']
  | object [] => ['\x7b', '\x7d']
  | object ((key, value) :: members) =>
    '\x7b' :: newline (depth + 1) ++ Quoted.write key ++ ": " ++ indented (depth + 1) value ++
      indentedMembers (depth + 1) members ++ newline depth ++ ['\x7d']

/-- Further items, each after a comma on a line of its own. -/
def indentedItems (depth : Nat) : List Json → Text
  | [] => []
  | item :: items => ',' :: newline depth ++ indented depth item ++ indentedItems depth items

/-- Further members, each after a comma on a line of its own. -/
def indentedMembers (depth : Nat) : List (Text × Json) → Text
  | [] => []
  | (key, value) :: members =>
    ',' :: newline depth ++ Quoted.write key ++ ": " ++ indented depth value ++
      indentedMembers depth members

end

/-- A whole document in the layout of files, without a final line ending. -/
def pretty (value : Json) : Text := indented 0 value

end TaskSheet.Json
