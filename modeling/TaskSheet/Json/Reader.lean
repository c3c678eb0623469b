import TaskSheet.Json.Token

/-!
# Reading JSON

A value is built while its tokens go by. The state holds the containers that are open
and says what may come next; a container absorbs a value only when the token after the
value has shown whether another one follows. Equal keys are allowed, and the last one
counts. Nesting is bounded.
-/

namespace TaskSheet.Json

/-- The greatest number of containers that may be open at once. -/
def greatestDepth : Nat := 127

namespace Reader

/-- A container that is open around the place of the next value. -/
inductive Frame where
  /-- An array with its items so far, the last one first. -/
  | items (read : List Json)
  /-- An object with its members so far and the key of the next value. -/
  | member (read : List (Text × Json)) (key : Text)

/-- What has just been read, and so what may come next. -/
inductive Phase where
  /-- A value has to come. -/
  | value
  /-- The bracket that opens an array has been read. -/
  | opened
  /-- The brace that opens an object has been read, or a comma after these members, of
  which there is at least one exactly if `more` holds. -/
  | key (read : List (Text × Json)) (more : Bool)
  /-- A key has been read after these members. -/
  | colon (read : List (Text × Json)) (key : Text)
  /-- This value is complete. -/
  | complete (value : Json)

/-- The open containers, the innermost first, and what may come next. -/
structure State where
  /-- The open containers around the place of the next value. -/
  frames : List Frame
  /-- What may come next. -/
  phase : Phase

/-- The state before the first token. -/
def start : State := ⟨[], .value⟩

/-- The effect of a token with which a value begins. -/
def begin? (frames : List Frame) : Token → Option State
  | .null => some ⟨frames, .complete .null⟩
  | .bool value => some ⟨frames, .complete (.bool value)⟩
  | .number value => some ⟨frames, .complete (.number value)⟩
  | .string value => some ⟨frames, .complete (.string value)⟩
  | .openArray => if frames.length < greatestDepth then some ⟨frames, .opened⟩ else none
  | .openObject => if frames.length < greatestDepth then some ⟨frames, .key [] false⟩ else none
  | _ => none

/-- The effect of a token on the state. -/
def step? (state : State) (token : Token) : Option State :=
  match state.phase with
  | .value => begin? state.frames token
  | .opened =>
    match token with
    | .closeArray => some ⟨state.frames, .complete (.array [])⟩
    | token => begin? (.items [] :: state.frames) token
  | .key read more =>
    match token with
    | .string key => some ⟨state.frames, .colon read key⟩
    | .closeObject => if more then none else some ⟨state.frames, .complete (.object read)⟩
    | _ => none
  | .colon read key =>
    match token with
    | .colon => some ⟨.member read key :: state.frames, .value⟩
    | _ => none
  | .complete value =>
    match state.frames, token with
    | .items read :: frames, .comma => some ⟨.items (value :: read) :: frames, .value⟩
    | .items read :: frames, .closeArray =>
      some ⟨frames, .complete (.array (value :: read).reverse)⟩
    | .member read key :: frames, .comma =>
      some ⟨frames, .key (insertMember key value read) true⟩
    | .member read key :: frames, .closeObject =>
      some ⟨frames, .complete (.object (insertMember key value read))⟩
    | _, _ => none

/-- The value that has been read, if nothing is left open. -/
def State.result? (state : State) : Option Json :=
  match state.frames, state.phase with
  | [], .complete value => some value
  | _, _ => none

end Reader

/-- The one value that the tokens make up. -/
def ofTokens? (tokens : List Token) : Option Json :=
  (tokens.foldlM Reader.step? Reader.start).bind Reader.State.result?

/-- The one value that a text holds. -/
def parse? (text : Text) : Option Json := (Token.ofText? text).bind ofTokens?

end TaskSheet.Json
