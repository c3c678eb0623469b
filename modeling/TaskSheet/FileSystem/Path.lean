import TaskSheet.Text.Utf8

/-!
# Paths

A path is a sequence of bytes whose pieces are separated by slashes. It need not be text:
where one is shown or written into a text, malformed bytes are replaced. Empty pieces and
single dots mean nothing except at the very start of a path; double dots are kept, since
only a walk through the directories can tell where they lead.
-/

namespace TaskSheet.Path

/-- What is shown of a path. -/
def display (path : Bytes) : Text := Text.decodeLossy path

/-- The byte that separates the pieces of a path. -/
def slash : UInt8 := 0x2F

/-- The byte of which the pieces without a name consist. -/
def dot : UInt8 := 0x2E

/-- The piece that stands for the directory in which it is looked up. -/
def here : Bytes := [dot]

/-- The piece that stands for the directory above the one in which it is looked up. -/
def up : Bytes := [dot, dot]

/-- The pieces between the slashes of a path. -/
def pieces (path : Bytes) : List Bytes := path.splitOn slash

/-- The pieces through which a walk along the path goes. -/
def components (path : Bytes) : List Bytes := (pieces path).filter fun piece => !piece.isEmpty

/-- Whether a path starts at the root. -/
def isAbsolute (path : Bytes) : Bool := path.head? == some slash

/-- Whether a path can only mean a directory. -/
def endsWithSlash (path : Bytes) : Bool := path.getLast? == some slash

/-- The part of a path that names the place where it starts, if the path mentions it. -/
def anchor (path : Bytes) : Bytes :=
  if isAbsolute path then [slash]
  else if path = here || [dot, slash].isPrefixOf path then here
  else []

/-- The paths that end behind one of the given pieces, the longest first. The pieces come
last first. -/
def prefixes (anchor : Bytes) : List Bytes → List Bytes
  | [] => []
  | piece :: pieces =>
    if piece.isEmpty || piece == here then prefixes anchor pieces
    else (anchor ++ List.intercalate [slash] (piece :: pieces).reverse) :: prefixes anchor pieces

/-- The directories that have to exist around a path, as they are written in it, the
innermost first. -/
def enclosing (path : Bytes) : List Bytes :=
  let start := anchor path
  (prefixes start (pieces (path.drop start.length)).reverse).tail

/-- A path with one more piece. -/
def push (path piece : Bytes) : Bytes :=
  if endsWithSlash path then path ++ piece else path ++ slash :: piece

/-- The start of an absolute path that begins like the given one. Exactly two slashes are
kept, any other number counts as one. -/
def root (path : Bytes) : Bytes :=
  if (path.takeWhile (· == slash)).length = 2 then [slash, slash] else [slash]

/-- The path from the root that means the same as the given path does in a directory.
A slash at its end stays. -/
def absolute (directory path : Bytes) : Bytes :=
  let start := if isAbsolute path then root path else directory
  let whole := ((components path).filter (· != here)).foldl push start
  if endsWithSlash path then push whole [] else whole

end TaskSheet.Path
