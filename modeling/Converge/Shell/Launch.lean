import Converge.Host.Basic
import Converge.Shell.Run

/-!
# Commands of a host

A command is carried out in the directory that it asks for. Its program is found along the path of
its environment and started from its file; nothing can be read by it, and all that it prints is kept
in one text.

This is one launcher of many. What commands do is a parameter of hosts (`Host.launcher`), and nothing
that is proved rests on this one: it stands in for the system where a program is tried on examples, as
far as they ask for it.
-/

namespace Converge.Shell

open Act

def maxWord : Nat := 131071

/-- What programs find in their environment, unless something else is set. -/
def usualEnvironment : Table String := Table.ofList [("PATH", usualPath), ("HOME", "/root")]

def directoryFor (files : FileSystem) (cwd : Place) : Option String → Except Errno Place
  | none => .ok cwd
  | some path =>
    match files.stat cwd true path with
    | .ok (place, .directory _) => .ok place
    | .ok _ => .error .notDirectory
    | .error errno => .error errno

/-- A system before its first program: what is printed goes to channel 1, and channel 0 is empty. -/
def freshSystem (files : FileSystem) : System :=
  { files, channels := [(0, .null), (1, .console)], nextChannel := 2, printed := [], nextProcess := 4242
    clock := 0, deadline := none }

/-- What stands at the beginning of all processes. -/
def freshState (files : FileSystem) (cwd : Place) : State :=
  { system := freshSystem files, name := "", process := 4241, isInner := false, arguments := []
    bindings := ∅, functions := ∅, places := [(0, 0), (1, 1), (2, 1)], cwd
    path := Program.placeText cwd, status := 0, substituted := 0, options := [], line := 0
    command := none, loops := 0, calls := 0, saved := [], traps := [], signals := [], rank := 0
    lastStarted := none, tasks := [] }

/-- A command started along the path of its environment; of several reasons why it cannot be, the
first counts that says more than that there is no such file. -/
def startAlong (environment : List (String × String)) (words : List String) : Act Finish := do
  let word := words.headD ""
  let paths := candidates ((environment.lookup "PATH").getD usualPath) word
  let try' (before : Finish) (path : String) : Act Finish := do
    match before with
    | .refused errno =>
      match ← start (run depth) startFuel ⟨path, words, environment⟩ with
      | .refused next =>
        let isMissing := errno = .noEntry || errno = .notDirectory
        return .refused (if isMissing then next else errno)
      | finish => return finish
    | finish => return finish
  paths.foldlM try' (.refused .noEntry)

/-- What commands do on a system, given settings of their environment and a working directory. -/
def launcher (settings : Table String) (cwd : Place) : Launcher := fun _ command files =>
  match directoryFor files cwd command.directory with
  | .error errno => (.refused errno, files)
  | .ok cwd =>
    if command.words.any fun w => maxWord < w.size then (.refused .tooLarge, files)
    else
      let all := settings.entries.foldl (fun t e => t.insert e.1 e.2) usualEnvironment
      let environment := all.entries.map fun e => (Text.octetsOf e.1, Text.octetsOf e.2)
      let words := command.words.map fun w => Text.octets w.toList
      let (result, after) := (ExceptT.run (startAlong environment words)).run (freshState files cwd)
      let output : ByteArray := ⟨(after.system.printed.reverse.flatMap Text.ofOctets).toArray⟩
      let files := after.system.files
      match result with
      | .ok (.refused errno) => (.refused errno, files)
      | .ok (.exited n) => (.ended n output, files)
      | .ok (.signalled n) | .error (.signalled n) | .error (.killed n) => (.ended (-(n : Int)) output, files)
      | .error _ => (.ended 0 output, files)

end Converge.Shell
