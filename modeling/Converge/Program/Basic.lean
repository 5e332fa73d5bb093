import Converge.Host.FileSystem
import Converge.Text.Octets

/-!
# Programs at work

A program works on the files of a system from a working directory, reads its input, prints on two
outputs and ends with a status. All its texts are texts of bytes, with a character for each byte.

Like the shell that starts them (`Shell.launcher`), these programs stand in for those of a system
where commands are tried on examples.
-/

namespace Converge.Program

/-- The two outputs of a program. -/
inductive Output where
  | usual
  | errors
deriving DecidableEq, Repr

/-- A program at work. -/
structure Work where
  /-- The word by which the program was started; its complaints begin with it. -/
  name : String
  files : FileSystem
  cwd : Place
  /-- What is left of the input. -/
  input : String
  /-- The input is a file, whose size is known. -/
  isSized : Bool
  /-- What was printed, the newest first. -/
  printed : List (Output × String)
  status : Nat
  /-- The time spent in waiting, in thousandths of a second. -/
  time : Nat

/-- What a program does: it may end early with a status. -/
abbrev Job := ExceptT Nat (StateM Work)

namespace Job

/-- Text on the usual output. -/
def say (s : String) : Job Unit :=
  modify fun w => { w with printed := (.usual, s) :: w.printed }

def sayLine (s : String) : Job Unit := say (s ++ "\n")

def sayError (s : String) : Job Unit :=
  modify fun w => { w with printed := (.errors, s) :: w.printed }

/-- A line on the output for errors that begins with the name of the program. -/
def complain (words : String) : Job Unit := do
  sayError ((← get).name ++ ": " ++ words ++ "\n")

/-- Time spent in waiting, in thousandths of a second. -/
def idle (time : Nat) : Job Unit := modify fun w => { w with time := w.time + time }

/-- The status with which the program is to end. -/
def settle (status : Nat) : Job Unit := modify fun w => { w with status }

/-- A complaint after which the program goes on, to end with a status. -/
def fault (words : String) (status : Nat := 1) : Job Unit := do
  complain words
  settle status

/-- A complaint with which the program ends. -/
def refuse {α : Type} (words : String) (status : Nat := 1) : Job α := do
  complain words
  throw status

/-- The line that names the option for help. -/
def hint : Job Unit := do
  sayError ("Try '" ++ (← get).name ++ " --help' for more information.\n")

/-- A complaint about how the program was started. -/
def misuse {α : Type} (words : String) (status : Nat := 1) : Job α := do
  complain words
  hint
  throw status

/-- The program carried out, up to its end. -/
def finish (t : Job Unit) (w : Work) : Work :=
  match (ExceptT.run t).run w with
  | (.ok (), w) => w
  | (.error status, w) => { w with status }

/-! ## Files -/

/-- What a path leads to; `follow` says whether a link at its end is followed. -/
def look (path : String) (follow : Bool := true) : Job (Except Errno (Place × Entry)) := do
  let w ← get
  return w.files.stat w.cwd follow (Text.textOf path)

/-- Other files, or the reason why there are none. -/
def change (f : FileSystem → Place → Except Errno FileSystem) : Job (Except Errno Unit) := do
  let w ← get
  match f w.files w.cwd with
  | .ok files =>
    set { w with files }
    return .ok ()
  | .error errno => return .error errno

/-- The place whose content is always empty. -/
def nullPlace : Place := ["dev", "null"]

/-- All of the input, after which it is at its end. -/
def takeInput : Job String := do
  let w ← get
  set { w with input := "" }
  return w.input

def inputPaths : List String := ["/dev/stdin", "/dev/fd/0", "/proc/self/fd/0"]

def content (path : String) : Job (Except Errno String) := do
  if inputPaths.contains path then return .ok (← takeInput)
  else
    let w ← get
    match w.files.read w.cwd (Text.textOf path) with
    | .ok bytes => return .ok (Text.octets bytes.toList)
    | .error errno => return .error errno

/-- A file with a content, or text on an output for whose paths it stands. -/
def store (path : String) (text : String) (append : Bool := false) : Job (Except Errno Unit) := do
  if path = "/dev/stdout" then
    say text
    return .ok ()
  else if path = "/dev/stderr" then
    sayError text
    return .ok ()
  else
    match ← look path with
    | .ok (place, .file bytes _) =>
      if place = nullPlace then return .ok ()
      else
        let before := if append then bytes.toList else []
        change fun files cwd =>
          files.write cwd (Text.textOf path) ⟨(before ++ Text.ofOctets text).toArray⟩
    | _ =>
      change fun files cwd => files.write cwd (Text.textOf path) ⟨(Text.ofOctets text).toArray⟩

/-- The text of a named input, a dash standing for the input of the program. -/
def source (path : String) : Job (Except Errno String) := do
  if path = "-" then return .ok (← takeInput) else content path

end Job

/-- The lines of a text, each with its line feed; the last may lack one. -/
def linesOf (s : String) : List String :=
  let parts := s.toList.foldr (fun c lines => match lines with
    | [] => [[c]]
    | line :: rest => if c == '\n' then [c] :: line :: rest else (c :: line) :: rest) []
  parts.map String.ofList

def chomped (line : String) : String :=
  if line.endsWith "\n" then String.ofList line.toList.dropLast else line

end Converge.Program
