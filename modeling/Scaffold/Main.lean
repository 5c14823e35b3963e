/-
The command line program: looks at the files a run can reach, runs on what was seen, and carries out
what the run changed.
-/
import Scaffold.Command.Reach

namespace Scaffold
namespace Command

def environment : IO (List (String × String)) :=
  Config.variableNames.filterMapM fun name => do
    return (← IO.getEnv name).map (name, ·)

/-- What is at a path; nothing if nothing is there. What is there but cannot be read is a file
without a text. -/
def look (path : String) : IO (Option Node) := do
  try
    return some (.file (String.fromUTF8? (← IO.FS.readBinFile path)))
  catch
    | .noFileOrDirectory .. => return none
    | .inappropriateType .. =>
      try
        IO.FS.createDirAll path
        return some .directory
      catch _ => return none
    | _ => return some (.file none)

def see (t : FileTree) (path : String) : IO FileTree :=
  (Place.stations path).foldlM (fun t place => do
    if (t.find? place).isSome then return t
    match ← look place.path with
    | some node => return t.set place node
    | none => return t) t

/-- Makes a directory or writes a file; tells whether that went well. -/
def carryOut : Place × Node → IO Bool
  | (place, node) => do
    try
      match node with
      | .directory => IO.FS.createDirAll place.path
      | .file text => IO.FS.writeFile place.path (text.getD "")
      return true
    catch _ => return false

/-- Runs the program. Places that cannot be written count as locked for what is said in the end. -/
def perform (args : List String) : IO Outcome := do
  let environment ← environment
  let t ← (settingsPaths args).foldlM see .empty
  let t ← (inputPaths t environment args).foldlM see t
  let t ← (outputPaths t environment args).foldlM see t
  let (after, outcome) := run t environment args
  let failed ← (t.additions after).filterM fun change => return !(← carryOut change)
  if failed.isEmpty then return outcome
  return (run (failed.foldl (fun t change => t.lock change.1) t) environment args).2

end Command
end Scaffold

def main (args : List String) : IO UInt32 := do
  let outcome ← Scaffold.Command.perform args
  IO.print outcome.output
  return outcome.exit.toUInt32
