import Converge.CommandLine.Answer
import Converge.Host.Snapshot
import Converge.SetTable
import Converge.Shell.Launch

/-!
# The program

What the command line and the documents that it names mention is read from the system into a
snapshot, the command line is answered on the snapshot, and what changed is written back.
-/

namespace Converge.Main

def pathOf (place : Place) : String := "/" ++ "/".intercalate place

/-- What stands at a path of the system. -/
def look (path : String) : IO (Option Entry) := do
  try
    return some (.file (← IO.FS.readBinFile path) 0o644)
  catch
    | .noFileOrDirectory .. => return none
    | .permissionDenied .. => return some (.file ByteArray.empty 0)
    | _ => return some (.directory 0o755)

/-- The text of a file of the system, when there is one. -/
def textAt (path : String) : IO (Option String) := do
  match ← look path with
  | some (.file content _) => return (Text.decode content).toOption
  | _ => return none

/-- The first line of a file of the system. -/
def lineAt (path : String) : IO String := do
  return (((← textAt path).getD "").takeWhile (· ≠ '\n')).toString

/-- The environment, as far as it counts. -/
def environment : IO (Table String) := do
  let mut t : Table String := ∅
  for name in [Settings.pathVariable, Strategy.variableName] do
    if let some value := ← IO.getEnv name then t := t.insert name value
  return t

def machine : IO Machine := do
  let name ← lineAt "/proc/sys/kernel/hostname"
  return {
    hostname := name
    fullName := name
    kernel := ← lineAt "/proc/sys/kernel/ostype"
    release := ← lineAt "/proc/sys/kernel/osrelease"
    architecture := ← lineAt "/proc/sys/kernel/arch"
    family := "posix"
    version := "3"
    processors := 1 }

def snapshot (cwd : Place) (paths : List String) : IO FileSystem := do
  let mut files : FileSystem := { entries := [([], .directory 0o755)] }
  for path in paths do
    let place := if Path.isAbsolute path then Path.parts path else cwd ++ Path.parts path
    for here in Snapshot.wayTo place do
      if (files.get? here).isNone then
        if let some entry := ← look (pathOf here) then files := files.insert here entry
  return files

def carryOut : Snapshot.Change → IO Unit
  | .put place (.file content mode) => do
    IO.FS.writeBinFile (pathOf place) content
    IO.Prim.setAccessRights (pathOf place) mode.toUInt32
  | .put place (.directory mode) => do
    IO.FS.createDirAll (pathOf place)
    IO.Prim.setAccessRights (pathOf place) mode.toUInt32
  | .put _ (.link _) => pure ()
  | .drop place (.directory _) => IO.FS.removeDir (pathOf place)
  | .drop place _ => IO.FS.removeFile (pathOf place)

/-- The command line answered on a snapshot of the system; the exit status. -/
def run (words : List String) : IO UInt32 := do
  let cwd := Path.parts (toString (← IO.currentDir))
  let environment ← environment
  let documents := "." :: words ++ [(environment.get? Settings.pathVariable).getD Settings.usualPath]
  let texts ← documents.filterMapM textAt
  let files ← snapshot cwd (documents ++ (words ++ texts).flatMap Snapshot.mentioned)
  let host : Host :=
    { files, cwd, environment, console := .blank, launcher := Shell.launcher environment cwd, asked := [] }
  let executable := toString (← IO.appPath)
  let runtime : Runtime := .ofLines executable .asTable (← machine).facts
  let (result, after) := (CommandLine.answer runtime words).result host
  IO.print after.console.out
  IO.eprint after.console.err
  (Snapshot.changes files after.files).forM carryOut
  match result with
  | .ok ending => return ending.status.toUInt32
  | .error fault => do
    IO.eprintln (fault.kind ++ ": " ++ fault.message)
    return 1

end Converge.Main

/-- The program. -/
def main (words : List String) : IO UInt32 := Converge.Main.run words
