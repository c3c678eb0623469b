import TaskSheet.FileSystem.Basic

/-!
# Operations on file systems

Every operation walks along a path and either fails without effect or does one thing.
Only the making of nested directories consists of several steps, and what the first
steps have made stays if a later one fails.
-/

namespace TaskSheet.FileSystem

/-- The greatest number of bytes in the name of a file. -/
def greatestName : Nat := 255

/-- The greatest number of bytes in a path. -/
def greatestPath : Nat := 4095

/-- Refuses a path that no operation accepts. -/
def checkPath (path : Bytes) : Except Fault Unit :=
  if path.contains 0 then .error .nulInPath
  else if greatestPath < path.length then .error .nameTooLong
  else if path.isEmpty then .error .notFound
  else .ok ()

/-- The location of a name in a directory, whether or not something is there. -/
def child (files : FileSystem) (directory : Location) (name : Bytes) : Except Fault Location :=
  if !files.isDirectoryAt directory then .error .notDirectory
  else if greatestName < name.length then .error .nameTooLong
  else .ok (directory ++ [name])

/-- Goes from a directory along one piece of a path to something that exists. -/
def enter (files : FileSystem) (directory : Location) (piece : Bytes) : Except Fault Location :=
  if piece = Path.here || piece = Path.up then
    if !files.isDirectoryAt directory then .error .notDirectory
    else if piece = Path.here then .ok directory
    else .ok directory.dropLast
  else do
    let location ← files.child directory piece
    if (files.node? location).isNone then .error .notFound else return location

/-- Where a walk along a path starts. -/
def origin (files : FileSystem) (path : Bytes) : Location :=
  if Path.isAbsolute path then [] else files.workingDirectory

/-- Goes along pieces of a path. -/
def walk (files : FileSystem) (start : Location) (pieces : List Bytes) : Except Fault Location :=
  pieces.foldlM files.enter start

/-- The location of what a path means, which has to exist. -/
def locate (files : FileSystem) (path : Bytes) : Except Fault Location := do
  checkPath path
  let location ← files.walk (files.origin path) (Path.components path)
  if Path.endsWithSlash path && !files.isDirectoryAt location then .error .notDirectory
  else return location

/-- Whether a path means a directory. -/
def isDirectory (files : FileSystem) (path : Bytes) : Bool :=
  match files.locate path with
  | .ok location => files.isDirectoryAt location
  | .error _ => false

/-- The content of the file that a path means. -/
def readFile (files : FileSystem) (path : Bytes) : Except Fault ByteArray := do
  let location ← files.locate path
  match files.node? location with
  | some (.file content) => return content
  | some .directory => .error .isDirectory
  | none => .error .notFound

/-- The directory in which the last piece of a path is looked up, and that piece. There is
none where the path is the root itself. -/
def lastPiece (files : FileSystem) (path : Bytes) : Except Fault (Location × Option Bytes) := do
  checkPath path
  let pieces := Path.components path
  let directory ← files.walk (files.origin path) pieces.dropLast
  if !files.isDirectoryAt directory then .error .notDirectory
  else return (directory, pieces.getLast?)

/-- Whether the last piece of a path is a name and does not lead back to a directory. -/
def isName (piece : Bytes) : Bool := piece != Path.here && piece != Path.up

/-- Makes one directory. -/
def makeDirectory (files : FileSystem) (path : Bytes) : Except Fault FileSystem := do
  let (directory, last) ← files.lastPiece path
  match last.filter isName with
  | none => .error .fileExists
  | some name =>
    let location ← files.child directory name
    if (files.node? location).isSome then .error .fileExists
    else if files.closedDirectories.contains directory then .error .notFound
    else return files.set location .directory

/-- Writes a file, in place of an earlier one. -/
def writeFile (files : FileSystem) (path : Bytes) (content : ByteArray) :
    Except Fault FileSystem := do
  let (directory, last) ← files.lastPiece path
  match last.filter isName with
  | none => .error .isDirectory
  | some name =>
    if Path.endsWithSlash path then .error .isDirectory
    else
      let location ← files.child directory name
      match files.node? location with
      | some .directory => .error .isDirectory
      | some (.file _) => return files.set location (.file content)
      | none =>
        if files.closedDirectories.contains directory then .error .notFound
        else return files.set location (.file content)

/-- Accepts that a directory could not be made if it is there. -/
def settle (files : FileSystem) (path : Bytes) (fault : Fault) : FileSystem × Except Fault Unit :=
  (files, if files.isDirectory path then .ok () else .error fault)

/-- Makes the first of some nested directories, if need be after making the others. The
innermost one comes first. -/
def makeDirectories (files : FileSystem) : List Bytes → FileSystem × Except Fault Unit
  | [] => (files, .ok ())
  | path :: outer =>
    match files.makeDirectory path with
    | .ok made => (made, .ok ())
    | .error .notFound =>
      match files.makeDirectories outer with
      | (made, .error fault) => (made, .error fault)
      | (made, .ok ()) =>
        match made.makeDirectory path with
        | .ok whole => (whole, .ok ())
        | .error fault => made.settle path fault
    | .error fault => files.settle path fault

end TaskSheet.FileSystem
