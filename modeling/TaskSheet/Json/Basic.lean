import TaskSheet.Text.Basic

/-!
# JSON values

An object is the list of its members. Where a value is read from text this list is
sorted by key without repetitions, which is what `insertMember` keeps.
-/

namespace TaskSheet

/-- A number is an integer of at most sixty-four bits or a double. -/
inductive Json.Number where
  /-- An integer between `-2 ^ 63` and `2 ^ 64 - 1`. -/
  | int (value : Int)
  /-- The double with these bits. -/
  | double (bits : UInt64)
  deriving DecidableEq

/-- A JSON value. -/
inductive Json where
  | null
  | bool (value : Bool)
  | number (value : Json.Number)
  | string (value : Text)
  | array (items : List Json)
  | object (members : List (Text × Json))

namespace Json

/-- Adds a member in the order of the keys, in place of a member with the same key. -/
def insertMember (key : Text) (value : Json) : List (Text × Json) → List (Text × Json)
  | [] => [(key, value)]
  | (k, v) :: members =>
    if key = k then (key, value) :: members
    else if key < k then (key, value) :: (k, v) :: members
    else (k, v) :: insertMember key value members

/-- The word for the kind of a value. -/
def kind : Json → Text
  | null => "null"
  | bool _ => "boolean"
  | number _ => "number"
  | string _ => "string"
  | array _ => "array"
  | object _ => "object"

end Json

end TaskSheet
