import ParserConformance.CommandLine.Run
import ParserConformance.Proofs.Report.Agreement
import ParserConformance.Script.Run
import Std.Time.Format

/-!
# The command `grammar-test`

Takes in the working directory, carries out the command on it, and prints what it says.
-/

namespace ParserConformance.CommandLine

/-- The time in UTC. -/
def currentTime : IO String := do
  let now ← Std.Time.Timestamp.now
  let wall := Std.Time.WallTime.ofNanoseconds now.toNanosecondsSinceUnixEpoch
  return (Std.Time.PlainDateTime.ofWallTime wall).format "uuuu-MM-dd'T'HH:mm:ss.SSSSSSSSS'Z'"

/-- How far below the working directory files are taken in. -/
def depthOfInterest : Nat := 24

/-- The mode that a file is taken to have: scripts may be run. -/
def presumedMode : List UInt8 → Nat
  | 0x23 :: 0x21 :: _ => 0o755
  | _ => Disk.fileMode

/-- What stands at `p` and down to `depth` levels below it, links followed. What cannot be read
is left out. -/
def takeIn : (depth : Nat) → (p : Location) → IO.FS.DirEntry → IO (List (Location × Entry))
  | 0, _, _ => return []
  | depth + 1, p, e => do
    try
      match (← e.path.metadata).type with
      | .dir =>
        let below ← (← e.path.readDir).toList.mapM fun e => takeIn depth (p ++ [e.fileName]) e
        return (p, .directory Disk.directoryMode) :: below.flatten
      | .file =>
        let content := (← IO.FS.readBinFile e.path).toList
        return [(p, .file (presumedMode content) content)]
      | _ => return []
    catch _ => return []

/-- The directories that lead from the root to a place. -/
def directoriesTo (p : Location) : List (Location × Entry) :=
  (List.range p.length).map fun n => (p.take (n + 1), .directory Disk.directoryMode)

/-- The disk as far as a command sees it: the working directory and what is below it, on a
system. -/
def currentDisk : IO Disk := do
  let path ← IO.currentDir
  let here := (Path.mk path.toString).steps
  let below ← (← path.readDir).toList.mapM fun e =>
    takeIn depthOfInterest (here ++ [e.fileName]) e
  return Disk.onSystem { here, entries := directoriesTo here ++ below.flatten }

end ParserConformance.CommandLine

open ParserConformance in
/-- Runs the command with its arguments. -/
def main (args : List String) : IO UInt32 := do
  let configFile ← IO.getEnv Configuration.fileVariable
  let env : CommandLine.Environment :=
    ⟨Script.host, ← CommandLine.currentDisk, configFile, ← CommandLine.currentTime, 4⟩
  let output := (CommandLine.run env args).get (CommandLine.isSome_run env args)
  IO.print output.out
  IO.eprint output.err
  return UInt32.ofNat output.status
