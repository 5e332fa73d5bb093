import Converge.Program.Lines

/-!
# Who and where

The programs that tell the user and the kind of the system. There is one user, who may do all.
-/

namespace Converge.Program

open Job

/-- The program that tells the numbers or the names of users. -/
def identity (arguments : List String) : Job Unit := do
  let (given, users) ← options
    [.flag 'u' "user", .flag 'g' "group", .flag 'G' "groups", .flag 'n' "name", .flag 'r' "real",
      .flag 'z' "zero", .flag 'a', .flag 'Z' "context"] arguments
  let has (c : Char) : Bool := isGiven given c
  let choices := ['u', 'g', 'G'].filter has
  if 1 < choices.length then refuse "cannot print \"only\" of more than one choice"
  if choices.isEmpty && (has 'n' || has 'r') then
    refuse "cannot print only names or real IDs in default format"
  if choices.isEmpty && has 'z' then refuse "option --zero not permitted in default format"
  let ending := if has 'z' then "\x00" else "\n"
  let tell : Job Unit :=
    say ((if choices.isEmpty then "uid=0(root) gid=0(root) groups=0(root)"
      else if has 'n' then "root" else "0") ++ ending)
  if users.isEmpty then tell
  else
    for user in users do
      if user == "root" || user == "0" then tell else fault (marked user ++ ": no such user")

/-- The program that tells the name of its user. -/
def whoami (arguments : List String) : Job Unit := do
  let (_, words) ← options [] arguments
  if let some extra := words.head? then misuse ("extra operand " ++ marked extra)
  sayLine "root"

/-- The program that tells the kind of the system. -/
def uname (arguments : List String) : Job Unit := do
  let (given, words) ← options
    [.flag 'a' "all", .flag 's' "kernel-name", .flag 'n' "nodename", .flag 'r' "kernel-release",
      .flag 'v' "kernel-version", .flag 'm' "machine", .flag 'p' "processor", .flag 'i' "hardware-platform",
      .flag 'o' "operating-system"] arguments
  if let some extra := words.head? then misuse ("extra operand " ++ marked extra)
  let parts := [('s', "Linux"), ('m', "x86_64"), ('p', "x86_64"), ('i', "x86_64"), ('o', "GNU/Linux")]
  let told := (parts.filter fun p => isGiven given p.1).map (·.2)
  sayLine (if told.isEmpty then "Linux" else " ".intercalate told)

end Converge.Program
