import TaskSheet.CommandLine.Run

/-!
# The command

The command takes a picture of those parts of the file system that a run can touch, runs
on the picture, and carries over to the file system what has changed in it. It prints
what the run reports.
-/

namespace TaskSheet.Main

/-- The bytes of what the system hands over as a string. -/
def ofString (handed : String) : Bytes := Text.bytes handed.toList

/-- The locations through which a walk along a path goes. -/
def visited (start : Location) (path : Bytes) : List Location :=
  let step (place : Location) (piece : Bytes) : Location :=
    if piece = Path.here then place
    else if piece = Path.up then place.dropLast
    else place ++ [piece]
  let origin := if Path.isAbsolute path then [] else start
  ((Path.components path).foldl (fun (places, place) piece =>
    let next := step place piece
    (next :: places, next)) ([origin], origin)).1

/-- The locations that matter for a run with these settings. -/
def touched (start : Location) (settings : CommandLine.Settings) : List Location :=
  (List.range (start.length + 1)).map start.take ++ visited start settings.input ++
    (settings.output.map (visited start)).getD []

/-- The path of a location, as the system takes it. -/
def written (location : Location) : String := String.ofList (Path.display location.path)

/-- What is at a location. -/
def look (location : Location) : IO (Option Node) := do
  let place := (← IO.currentDir) / written location
  if ← place.isDir then return some .directory
  else if ← place.pathExists then return some (.file (← IO.FS.readBinFile place))
  else return none

/-- The picture of some locations. -/
def picture (start : Location) (places : List Location) : IO FileSystem := do
  let mut entries : List (Location × Node) := []
  for place in places do
    if let some node ← look place then
      entries := (place, node) :: entries
  return { entries := entries, workingDirectory := start, closedDirectories := [["proc"]] }

/-- Carries a change over to the file system. -/
def carryOver (change : Location × Node) : IO Unit := do
  let place := (← IO.currentDir) / written change.1
  match change.2 with
  | .directory => IO.FS.createDir place
  | .file content => IO.FS.writeBinFile place content

/-- Runs the command with the given arguments. -/
def run (arguments : List String) : IO UInt32 := do
  let arguments := arguments.map ofString
  let fallbacks : CommandLine.Variables :=
    { projectDir := (← IO.getEnv "TASKSMITH_PROJECT_DIR").map ofString
      activate := (← IO.getEnv "TASKSMITH_ACTIVATE").map ofString }
  let start := Path.components (ofString (← IO.currentDir).toString)
  let places :=
    match CommandLine.Settings.parse arguments fallbacks with
    | .ok settings => touched start settings
    | .error _ => []
  let before ← picture start places
  let report := CommandLine.run before arguments fallbacks
  for entry in report.log do
    IO.eprintln (String.ofList (entry.level.name ++ [' '] ++ entry.message))
  for change in (FileSystem.changes before report.files).reverse do
    carryOver change
  IO.print (String.ofList report.stdout)
  return report.exit.toUInt32

end TaskSheet.Main

/-- The entry point of the command. -/
def main (arguments : List String) : IO UInt32 := TaskSheet.Main.run arguments
