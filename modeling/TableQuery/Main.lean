import Std.Time.DateTime.Timestamp
import TableQuery.Clock
import TableQuery.CommandLine.Run

/-! # The program

Runs the command line over the files, the variables and the clock of the machine.
-/

namespace TableQuery.CommandLine

def fileError : IO.Error → FileError
  | .noFileOrDirectory _ _ _ => .notFound
  | .permissionDenied _ _ _ => .denied
  | .inappropriateType _ code _ => if code = 20 then .notDirectory else .isDirectory
  | other => .other (toString other)

def attempt {α : Type} (action : IO α) : IO (Except FileError α) := do
  try return .ok (← action)
  catch e => return .error (fileError e)

/-- The files of the machine. A folder is told by its refusal to be opened for changes. -/
def machineDisk : Disk IO where
  read path := attempt (IO.FS.readBinFile path)
  isFolder path := do
    match ← attempt (discard (IO.FS.Handle.mk path .readWrite)) with
    | .error .isDirectory => return true
    | _ => return false
  write path text := attempt (IO.FS.writeFile path text)
  touch path := attempt (discard (IO.FS.Handle.mk path .append))

def machineVariables : IO (List (String × String)) := do
  let held ← variableNames.mapM fun name => do return (name, ← IO.getEnv name)
  return held.filterMap fun (name, value) => value.map fun v => (name, v)

def machineSurroundings : IO Surroundings := do
  let held ← machineVariables
  let now ← Std.Time.Timestamp.now
  let time : ClockTime := ⟨now.toNanosecondsSinceUnixEpoch.val.toNat⟩
  let random ← IO.getRandomBytes 16
  return {
    env := fun name => held.lookup name
    time := time.text
    day := time.dayText ""
    clock := time.timeText ""
    insightId := Output.insightId (random.data.foldl (fun n b => 256 * n + b.toNat) 0) }

end TableQuery.CommandLine

open TableQuery.CommandLine in
/-- Run the command line, print its report and end with its code. -/
def main (words : List String) : IO UInt32 := do
  let report ← run machineDisk (← machineSurroundings) words
  IO.print report.output
  IO.eprint report.complaint
  return report.code.toUInt32
