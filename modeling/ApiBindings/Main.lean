import ApiBindings.Command.Run
import Std.Time
/-!
# The program

The files that a run can reach are read, the run is worked out on them, and what it has changed is
written back. The program has its variables from the environment alone, and no charsets beside those
of the library.
-/

namespace ApiBindings.Command

open Files (Entry Location Tree)

/-- What a location holds. -/
def readEntry? (loc : Location) : IO (Option Entry) := do
  let path := (← IO.currentDir) / Files.showLocation loc
  if ← path.isDir then return some .directory
  if ← path.pathExists then return some (.file (← IO.FS.readBinFile path).toList)
  return none

/-- What some locations hold. -/
def readTree (locs : List Location) : IO Tree :=
  locs.foldlM (fun t loc => do
    if (t.find? loc).isSome then return t
    return ((← readEntry? loc).map (t.set loc)).getD t) Tree.empty

/-- An entry put at its location. -/
def writeEntry (loc : Location) (entry : Entry) : IO Unit := do
  let path := (← IO.currentDir) / Files.showLocation loc
  match entry with
  | .directory => IO.FS.createDirAll path
  | .file content => IO.FS.writeBinFile path ⟨content.toArray⟩

/-- The difference between two trees carried out; older entries come first. -/
def writeTree (before after : Tree) : IO Unit := do
  for (loc, _) in before.entries do
    if (after.find? loc).isNone then
      IO.FS.removeFile ((← IO.currentDir) / Files.showLocation loc)
  for (loc, entry) in after.entries.reverse do
    if before.find? loc != some entry then writeEntry loc entry

/-- The time in front of a log record. -/
def stamp : IO String := do
  return (← Std.Time.PlainDateTime.now).format "uuuu-MM-dd HH:mm:ss" ++ " - "

end ApiBindings.Command

/-- One run with the arguments of the program. -/
def main (args : List String) : IO UInt32 := do
  let env ← ApiBindings.Command.environmentNames.filterMapM fun name => do
    return (← IO.getEnv name).map fun value => (name, value)
  let before ← ApiBindings.Command.readTree (ApiBindings.Command.reach env args)
  let ending := ApiBindings.Command.run .bare (← ApiBindings.Command.stamp) env args before
  ApiBindings.Command.writeTree before ending.files
  IO.print ending.stdout
  IO.eprint ending.stderr
  match ending.status with
  | .ok status => return status.toUInt32
  | .error e =>
    IO.eprintln e.message
    return 1
