import TaskSheet.Json.Numeral
import TaskSheet.Json.Quoted

/-!
# The tokens of JSON

Text is cut into tokens from the left. Between them stand blanks, and a token ends where
no further character can belong to it.
-/

namespace TaskSheet.Json

/-- A bracket, a separator or a scalar value. -/
inductive Token where
  | openArray
  | closeArray
  | openObject
  | closeObject
  | comma
  | colon
  | null
  | bool (value : Bool)
  | number (value : Number)
  | string (value : Text)
  deriving DecidableEq

namespace Token

/-- The characters that may stand between tokens. -/
def isBlank (c : Char) : Bool := c == ' ' || c == '\n' || c == '\t' || c == '\r'

/-- The token whose first character is `c`. -/
def read? (c : Char) (text : Text) : Option (Token × Text) :=
  match c with
  | '[' => some (openArray, text)
  | ']' => some (closeArray, text)
  | '\x7b' => some (openObject, text)
  | '\x7d' => some (closeObject, text)
  | ',' => some (comma, text)
  | ':' => some (colon, text)
  | 'n' => (Text.after? "ull" text).map fun rest => (null, rest)
  | 't' => (Text.after? "rue" text).map fun rest => (bool true, rest)
  | 'f' => (Text.after? "alse" text).map fun rest => (bool false, rest)
  | '"' => (Quoted.read? [] text).map fun (value, rest) => (string value, rest)
  | c => (Number.read? (c :: text)).map fun (value, rest) => (number value, rest)

/-- A token takes at least its first character. -/
theorem length_of_read? {c : Char} {text rest : Text} {token : Token}
    (h : read? c text = some (token, rest)) : rest.length ≤ text.length := by
  unfold read? at h
  split at h
  case h_7 | h_8 | h_9 =>
    obtain ⟨_, hread, heq⟩ := Option.map_eq_some_iff.mp h
    simp only [Prod.mk.injEq] at heq
    exact heq.2 ▸ Text.length_of_after? hread
  case h_10 =>
    obtain ⟨_, hread, heq⟩ := Option.map_eq_some_iff.mp h
    simp only [Prod.mk.injEq] at heq
    exact heq.2 ▸ Nat.le_of_lt (Quoted.length_of_read? hread)
  case h_11 =>
    obtain ⟨_, hread, heq⟩ := Option.map_eq_some_iff.mp h
    simp only [Prod.mk.injEq] at heq
    exact heq.2 ▸ Nat.le_of_lt_succ (Number.length_of_read? hread)
  all_goals
    simp only [Option.some.injEq, Prod.mk.injEq] at h
    simp [h.2]

/-- All tokens of a text, if it consists of tokens and the blanks between them. -/
def ofText? : Text → Option (List Token)
  | [] => some []
  | c :: text =>
    if isBlank c then ofText? text
    else
      match _h : read? c text with
      | none => none
      | some (token, rest) => (ofText? rest).map (token :: ·)
  termination_by text => text.length
  decreasing_by
    · simp
    · exact Nat.lt_succ_of_le (length_of_read? (by assumption))

end Token

end TaskSheet.Json
