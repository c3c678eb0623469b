import TaskSheet.FileSystem.Path

/-!
# File systems

A file system assigns to locations what is there: a file with its bytes, or a directory.
The root is always a directory. There are no links, so that a walk along a path goes
from location to location. Some directories are sealed: they exist, but nothing can be
made in them.
-/

namespace TaskSheet

/-- The names that lead from the root to a place. -/
abbrev Location := List Bytes

/-- The path from the root to a location. -/
def Location.path : Location → Bytes
  | [] => [Path.slash]
  | names => names.flatMap (Path.slash :: ·)

/-- What can be at a location. -/
inductive Node where
  /-- A file with its content. -/
  | file (content : ByteArray)
  /-- A directory. -/
  | directory

/-- Two files are equal if their bytes are. -/
instance : DecidableEq Node
  | .file first, .file second =>
    decidable_of_iff (first.data = second.data)
      ⟨fun h => congrArg Node.file (ByteArray.ext h),
        fun h => congrArg ByteArray.data (Node.file.inj h)⟩
  | .directory, .directory => isTrue rfl
  | .file _, .directory => isFalse Node.noConfusion
  | .directory, .file _ => isFalse Node.noConfusion

/-- Files and directories, with the directory from which relative paths start. -/
structure FileSystem where
  /-- What is where, apart from the root. -/
  entries : List (Location × Node)
  /-- The directory from which relative paths start. -/
  workingDirectory : Location
  /-- The directories in which nothing can be made. -/
  closedDirectories : List Location

namespace FileSystem

/-- Why an operation on a file system fails. -/
inductive Fault where
  /-- A piece of the path does not exist, or cannot be made. -/
  | notFound
  /-- What should be made exists. -/
  | fileExists
  /-- A file stands where the path goes on. -/
  | notDirectory
  /-- A directory stands where a file should be written. -/
  | isDirectory
  /-- The path or a piece of it is too long. -/
  | nameTooLong
  /-- The path contains the byte that ends paths. -/
  | nulInPath
  /-- The content of a file is no text. -/
  | notText
  deriving DecidableEq

/-- The message of a fault. -/
def Fault.message : Fault → Text
  | notFound => "No such file or directory (os error 2)"
  | fileExists => "File exists (os error 17)"
  | notDirectory => "Not a directory (os error 20)"
  | isDirectory => "Is a directory (os error 21)"
  | nameTooLong => "File name too long (os error 36)"
  | nulInPath => "file name contained an unexpected NUL byte"
  | notText => "stream did not contain valid UTF-8"

/-- What is at a location. -/
def node? (files : FileSystem) (location : Location) : Option Node :=
  if location.isEmpty then some .directory else files.entries.lookup location

/-- Whether there is a directory at a location. -/
def isDirectoryAt (files : FileSystem) (location : Location) : Bool :=
  files.node? location == some .directory

/-- Puts something at a location, in place of what was there. -/
def set (files : FileSystem) (location : Location) (node : Node) : FileSystem :=
  { files with entries := (location, node) :: files.entries.filter (·.1 != location) }

/-- What was put at a location is there. -/
theorem node?_set_self (files : FileSystem) {location : Location} (node : Node)
    (h : location ≠ []) : (files.set location node).node? location = some node := by
  simp [node?, set, h]

/-- Looking up a location passes over the entries of another one. -/
theorem lookup_filter_of_ne {location other : Location} (h : other ≠ location)
    (entries : List (Location × Node)) :
    (entries.filter (·.1 != location)).lookup other = entries.lookup other := by
  induction entries with
  | nil => rfl
  | cons entry entries ih =>
    obtain ⟨place, node⟩ := entry
    by_cases hplace : place = location
    · have hne : (other == location) = false := beq_eq_false_iff_ne.mpr h
      simp [hplace, List.lookup_cons, hne, ih]
    · simp [hplace, List.lookup_cons, ih]

/-- Elsewhere everything is as before. -/
theorem node?_set_of_ne (files : FileSystem) {location other : Location} (node : Node)
    (h : other ≠ location) : (files.set location node).node? other = files.node? other := by
  have hne : (other == location) = false := beq_eq_false_iff_ne.mpr h
  simp [node?, set, List.lookup_cons, hne, lookup_filter_of_ne h]

/-- What is there afterwards and was not there before, or not with this content. -/
def changes (before after : FileSystem) : List (Location × Node) :=
  after.entries.filter fun (place, node) => before.node? place != some node

end FileSystem

end TaskSheet
