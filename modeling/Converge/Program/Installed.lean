import Converge.Program.Blocks
import Converge.Program.Calculation
import Converge.Program.Checks
import Converge.Program.Cut
import Converge.Program.Edit
import Converge.Program.Exchange
import Converge.Program.Identity
import Converge.Program.Listing
import Converge.Program.Making
import Converge.Program.Permission
import Converge.Program.Question
import Converge.Program.Removal
import Converge.Program.Repeated
import Converge.Program.Row
import Converge.Program.Search
import Converge.Program.Transfer
import Converge.Program.Words

/-!
# Programs of the system

The programs that are installed, by their names, and the places where they stand.
-/

namespace Converge.Program

/-- The programs that need nothing but their arguments and the files. -/
def installed : List (String × (List String → Job Unit)) :=
  [("true", fun _ => Job.settle 0), ("false", fun _ => Job.settle 1), ("echo", echo),
    ("printf", printf .system), ("test", question false false), ("[", question false true),
    ("touch", touch), ("mkdir", mkdir), ("rmdir", rmdir), ("rm", rm), ("unlink", unlink), ("mv", mv),
    ("cp", cp), ("install", install), ("ln", ln), ("chmod", chmod), ("chown", fun _ => Job.settle 0),
    ("pwd", pwd), ("ls", ls), ("readlink", readlink), ("realpath", realpath), ("stat", stat),
    ("truncate", truncate), ("cat", cat), ("tac", tac), ("rev", rev), ("nl", nl), ("head", head),
    ("tail", tail), ("wc", wc), ("tee", tee), ("sort", sort), ("uniq", uniq), ("cut", cut), ("tr", tr),
    ("paste", paste), ("fold", fold), ("basename", basename), ("dirname", dirname), ("seq", seq),
    ("sleep", sleep), ("yes", yes), ("dd", dd), ("base64", base64), ("sha256sum", sha256sum),
    ("id", identity), ("whoami", whoami), ("uname", uname), ("grep", grep false false),
    ("egrep", grep true false), ("fgrep", grep false true), ("sed", Edit.sed), ("expr", Calculation.expr),
    ("sync", fun _ => Job.settle 0)]

def starters : List String :=
  ["sh", "dash", "bash", "env", "printenv", "nice", "nohup", "timeout", "xargs", "which", "find"]

def directories : List Place := [["bin"], ["usr", "bin"]]

/-- The name of the program that stands at a place. -/
def nameAt? (place : Place) : Option String :=
  match place.getLast? with
  | some name =>
    if directories.contains place.dropLast && (installed.any (·.1 == name) || starters.contains name) then
      some name
    else none
  | none => none

def entries : List (Place × Entry) :=
  directories.flatMap fun directory =>
    (installed.map (·.1) ++ starters).map fun name => (directory ++ [name], .file ByteArray.empty 0o755)

end Converge.Program
