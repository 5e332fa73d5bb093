import Converge.Shell.Builtin.Basic

/-!
# The way of commands

Ends of shells, functions and loops, and texts, files and programs that are carried out in the place
of the shell's own commands.
-/

namespace Converge.Shell.Builtin

open Act

/-- The end of the shell. -/
def exit (words : List String) : Act Unit := do
  let status ← match words with
    | [] => pure (← get).status
    | word :: _ => number word
  modify fun s => { s with status }
  throw (.exit status)

/-- The end of a function or a script that is read. -/
def return' (words : List String) : Act Unit := do
  let status ← match words with
    | [] => pure (← get).status
    | word :: _ => number word
  modify fun s => { s with status }
  throw (.returns status)

def leaveLoops (goesOn : Bool) (words : List String) : Act Unit := do
  let n ← match words with
    | [] => pure 1
    | word :: _ => number word
  if n = 0 then fail ("Illegal number: " ++ words.headD "")
  let loops := (← get).loops
  settle 0
  if loops ≠ 0 then throw (if goesOn then .continues (min n loops) else .breaks (min n loops))

def eval (self : Runner) (words : List String) : Act Unit := do
  let words := match words with
    | "--" :: rest => rest
    | rest => rest
  settle 0
  if !words.isEmpty then
    let text := " ".intercalate words
    interpretText self false (← get).line text

/-- A file carried out as a part of the script. -/
def source (self : Runner) (words : List String) : Act Unit := do
  let (_, words) ← options "" words
  match words with
  | [] => settle 0
  | word :: rest =>
    let s ← get
    let searchPath := (← read? "PATH").getD usualPath
    let readable (path : String) : Bool := match s.system.files.stat s.cwd true (Text.textOf path) with
      | .ok (_, .file ..) => true
      | _ => false
    match (candidates searchPath word).find? fun p => word.contains '/' || readable p with
    | none => fail (word ++ ": not found")
    | some path =>
      match readScript s path with
      | .error .noEntry | .error .notDirectory => fail ("cannot open " ++ path ++ ": No such file")
      | .error errno => fail ("cannot open " ++ path ++ ": " ++ errno.text)
      | .ok content =>
        modify fun s => { s with
          status := 0, command := some path, line := 1
          arguments := if rest.isEmpty then s.arguments else rest }
        let result ← attempt (interpretText self false 1 (Text.octets content.toList))
        modify fun t => { t with arguments := if rest.isEmpty then t.arguments else s.arguments }
        match result with
        | .ok () => return ()
        | .error (.returns n) => settle n
        | .error leave => throw leave

/-- The shell given way to a program. -/
def exec (self : Runner) (words : List String) : Act Unit := do
  match words with
  | [] => settle 0
  | word :: _ =>
    let s ← get
    let searchPath := (← read? "PATH").getD usualPath
    match findProgram s searchPath word with
    | .error errno => do
      let missing := errno = .noEntry || errno = .notDirectory
      complain (word ++ ": " ++ if missing then "not found" else errno.text)
      throw (.exit (if missing then 127 else 126))
    | .ok path =>
      match ← start self startFuel ⟨path, words, ← environment⟩ with
      | .exited n =>
        modify fun s => { s with status := n, traps := [] }
        throw (.exit n)
      | .signalled n => throw (.signalled n)
      | .refused _ =>
        match ← startShell self "/bin/sh" (← environment) (path :: words.drop 1) with
        | .signalled n => throw (.signalled n)
        | .exited n => throw (.exit n)
        | .refused _ => throw (.exit 126)

end Converge.Shell.Builtin
