import Converge.Shell.Environment
import Converge.Shell.Finding

/-!
# Programs by their files

A program is started by its file: the file of a program of the system starts that, and a script
starts the program that its first line names.
-/

namespace Converge.Shell

open Act

/-- A program started at the places of this shell. -/
def start (self : Runner) : (fuel : Nat) → Call → Act Finish
  | 0, _ => return .refused .loop
  | n + 1, call => do
    let s ← get
    let b : Begun := ⟨call.words.headD "", call.words.drop 1, call.environment⟩
    let other : Starter := fun environment words => do
      let s ← get
      let word := words.headD ""
      if word == "" then return .refused .noEntry
      match findProgram s (Begun.searchPath environment) word with
      | .error errno => return .refused errno
      | .ok path =>
        match ← start self n ⟨path, words, environment⟩ with
        | .refused .noFormat => startShell self "/bin/sh" environment (path :: words.drop 1)
        | finish => return finish
    match startable s.system.files s.cwd call.path with
    | .error errno => return .refused errno
    | .ok (place, content) =>
      match Program.nameAt? place with
      | none =>
        match scriptProgram? content with
        | none => return .refused .noFormat
        | some (path, argument) =>
          start self n ⟨path, path :: argument ++ call.path :: b.arguments, call.environment⟩
      | some name =>
        match name with
        | "sh" | "dash" | "bash" => startShell self b.name call.environment b.arguments
        | "env" => (b.env other).finish
        | "printenv" => b.printenv.finish
        | "nohup" => (b.nohup other).finish
        | "nice" => (b.nice other).finish
        | "timeout" => (b.timeout other).finish
        | "which" => Starting.finish ({ b with name := call.path }).which
        | "xargs" => (b.xargs other).finish
        | "find" => (b.find other).finish
        | name =>
          match Program.installed.lookup name with
          | some job => return .exited (← runJob self b.name (job b.arguments))
          | none => return .refused .noFormat

/-- More fuel than programs that start others can need. -/
def startFuel : Nat := 50

end Converge.Shell
