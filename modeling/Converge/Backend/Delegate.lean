import Converge.Backend.Basic
import Converge.Catalog.Render
import Converge.Host.Process

/-!
# Enforcing by another command

A resource or a block of code is handed to a command as its last argument, as code. The status of
the command says whether it succeeded, and what it printed says why not.
-/

namespace Converge

/-- A command that enforces code: a program and the arguments before the code. -/
structure Delegate where
  program : String
  arguments : List String
deriving DecidableEq, Repr

namespace Delegate

/-- The command where no other is given: this program's own, for blocks of code. -/
def usual (executable : String) : Delegate := ⟨executable, ["-m", "enforcescript", "apply", "--execute"]⟩

/-- The command of some words, or the usual one when there are none. -/
def ofWords (executable : String) : List String → Delegate
  | [] => usual executable
  | program :: arguments => ⟨program, arguments⟩

def words (d : Delegate) : List String := d.program :: d.arguments

/-- The status for a command that cannot be started. -/
def notStarted : Int := 127

/-- The status for code that cannot be an argument, or output that is no text. -/
def notUsable : Int := 2

/-- What is said of a command that does not run. -/
def notRun (d : Delegate) (reason : String) : String :=
  "Could not run " ++ d.program ++ ": " ++ reason

variable {σ : Type} [Hosted σ]

/-- The command run with code: its status and what it printed. -/
def run (d : Delegate) (code : Value) : Action σ (Int × String) := do
  Action.log .debug ("Running " ++ " ".intercalate d.words)
  match ← (Action.onHost (Host.run (d.words.map .text ++ [code]) .null)).attempt with
  | .ok ended => return ended
  | .error (.system fault) => return (notStarted, d.notRun fault.errno.text)
  | .error fault =>
    if fault.isArgumentFault then return (notUsable, d.notRun fault.message) else throw fault

/-- The command run with code, and what it printed shown. -/
def runAndShow (d : Delegate) (code : Value) : Action σ (Int × String) := do
  let (status, output) ← d.run code
  if output ≠ "" then Action.print (Text.stripLineFeeds output)
  return (status, output)

/-- Why a command failed: what it printed, or its status when it printed nothing. -/
def failureMessage (d : Delegate) (status : Int) (output : String) : String :=
  let said := Text.strip output
  if said ≠ "" then said else d.program ++ " exited with status " ++ toString status

/-- A resource enforced by handing over the code that declares it. -/
def enforce (d : Delegate) (r : Resource) : Action σ Enforcement := do
  match Catalog.render [r] with
  | .error (.document fault) =>
    if fault.isMalformed then
      return .refused ("Could not render " ++ r.display ++ ": " ++ fault.message) r
    else throw (.document fault)
  | .error fault => throw fault
  | .ok code => do
    let (status, output) ← d.runAndShow (.text code)
    if status ≠ 0 then return .refused (d.failureMessage status output) r
    else return .success r

/-- A block of code enforced by handing it over; which resources it manages stays unknown. -/
def applyBlock (d : Delegate) (code : Value) : Action σ BlockResult := do
  let (status, output) ← d.runAndShow code
  if status ≠ 0 then return .refused [d.failureMessage status output]
  else return ⟨true, [], []⟩

/-- The backends that hand everything to one command. -/
def backends (d : Delegate) : Backends σ where
  enforce := d.enforce
  applyBlock := d.applyBlock

end Delegate

end Converge
