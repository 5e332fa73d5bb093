import Converge.Shell.Builtin.Argument
import Converge.Shell.Builtin.Directory
import Converge.Shell.Builtin.Duty
import Converge.Shell.Builtin.Flow
import Converge.Shell.Builtin.Line

/-!
# Programs inside of a shell

The programs that a shell carries out itself, because they change the shell: its directory, its
variables, its options and the way that its commands take.
-/

namespace Converge.Shell

open Act

/-- The programs whose faults end the shell, and whose assignments stay. -/
def specialNames : List String := TokenReader.keptNames

/-- The other programs inside of a shell. -/
def regularNames : List String :=
  ["[", "alias", "bg", "cd", "chdir", "command", "echo", "false", "fg", "getopts", "hash", "jobs", "kill",
    "local", "printf", "pwd", "read", "test", "true", "type", "ulimit", "umask", "unalias", "wait"]

namespace Builtin

/-! ## What words mean -/

/-- What a word means to the shell, in a phrase or in short; none where it means nothing. -/
def meaning (short : Bool) (word : String) : Act (Option String) := do
  let s ← get
  let searchPath := (← read? "PATH").getD usualPath
  let phrase (words : String) : String := if short then word else word ++ " is " ++ words
  if reservedWords.contains word then return some (phrase "a shell keyword")
  else if specialNames.contains word then return some (phrase "a special shell builtin")
  else if (s.functions.get? word).isSome then return some (phrase "a shell function")
  else if regularNames.contains word then return some (phrase "a shell builtin")
  else match findProgram s searchPath word with
    | .ok path => return some (if short then path else word ++ " is " ++ path)
    | .error _ => return none

def tellMeanings (short : Bool) (words : List String) : Act Unit := do
  settle 0
  for word in words do
    match ← meaning short word with
    | some text => say (text ++ "\n")
    | none => do
      if !short then say (word ++ ": not found\n")
      settle 127

/-- A program of the system carried out as one inside of the shell: its complaints come in front of
all else that it prints, and a fault takes the rest away. -/
def job (name : String) (j : Program.Job Unit) : Act Unit := do
  let s ← get
  let shown := s.name ++ ": " ++ toString s.line ++ ": " ++ name
  let work : Program.Work := ⟨shown, s.system.files, s.cwd, "", false, [], 0, 0⟩
  let (result, w) := (ExceptT.run j).run work
  let printed := w.printed.reverse
  let part (output : Program.Output) : String :=
    String.join ((printed.filter fun p => p.1 == output).map (·.2))
  write 2 (part .errors)
  match result with
  | .ok () =>
    write 1 (part .usual)
    settle w.status
  | .error n =>
    settle n
    throw (.fault n)

/-- The program of a name inside of the shell. -/
def run (self : Runner) (name : String) (words : List String) : Act Unit :=
  match name with
  | ":" | "true" => settle 0
  | "false" => settle 1
  | "echo" => job name (Program.shellEcho words)
  | "printf" => job name (Program.printf .shell words)
  | "test" => job name (Program.question true false words)
  | "[" => job name (Program.question true true words)
  | "cd" | "chdir" => cd words
  | "pwd" => pwd words
  | "export" => mark "export" true false words
  | "readonly" => mark "readonly" false true words
  | "unset" => unset words
  | "local" => localVariables words
  | "set" => set' words
  | "shift" => shift words
  | "read" => read words
  | "getopts" => getopts words
  | "exit" => exit words
  | "return" => return' words
  | "break" => leaveLoops false words
  | "continue" => leaveLoops true words
  | "eval" => eval self words
  | "." => source self words
  | "exec" => exec self words
  | "trap" => trap words
  | "kill" => kill words
  | "wait" => wait self words
  | "jobs" => jobs words
  | "fg" | "bg" => bring words
  | "type" => tellMeanings false words
  | "umask" => umask words
  | "times" => do
    say "0m0.00s 0m0.00s\n0m0.00s 0m0.00s\n"
    settle 0
  | _ => settle 0

end Builtin

end Converge.Shell
