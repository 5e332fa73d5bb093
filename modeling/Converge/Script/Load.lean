import Converge.Host.Files
import Converge.Script.Instruction
import Converge.Script.Routine

/-!
# Loading a script

The suffix of a script's path says in which form it is written. What cannot be read or is broken is
a fault of the script; a document that says something impossible is not.
-/

namespace Converge

/-- What scripts are run with. -/
structure Runtime where
  facts : Table Value
  /-- The program that runs this one. -/
  executable : String
  /-- What scripts of calls mean. -/
  read : Reader
  sets : Value.SetOrder

/-- Scripts of calls are read as lines. -/
def Runtime.ofLines (executable : String) (sets : Value.SetOrder) (facts : Table Value) : Runtime :=
  ⟨facts, executable, .ofLines sets, sets⟩

/-- A script that can be carried out. -/
inductive Script where
  | instructions (path : String) (is : List Instruction)
  | calls (path : String) (program : Table Value → Routine)

namespace Script

def documentSuffixes : List String := [".yaml", ".yml"]

def ofDocument (sets : Value.SetOrder) (path source : String) : Except Fault Script :=
  match Document.load sets source with
  | .error fault =>
    .error (if fault.isMalformed then .script (path ++ ": " ++ fault.message) else .document fault)
  | .ok data => match Instruction.ofValue data with
    | .error report => .error (.script (path ++ ": invalid script: " ++ report.message))
    | .ok is => .ok (.instructions path is)

def ofCalls (read : Reader) (path source : String) : Except Fault Script :=
  match read path source with
  | .error (.broken line message) =>
    .error (.script (path ++ ":" ++ (line.map toString).getD "None" ++ ": syntax error: " ++ message))
  | .error (.refused fault) => .error fault
  | .ok program => .ok (.calls path program)

def ofText (runtime : Runtime) (path source : String) : Except Fault Script :=
  if documentSuffixes.contains (Text.lower (Path.suffix path)) then ofDocument runtime.sets path source
  else ofCalls runtime.read path source

/-- A fault of reading the file of a script. -/
def unreadable (path : String) (fault : Fault) : Fault :=
  match fault with
  | .system _ | .decoding _ =>
    .script ("Could not read script file " ++ path ++ ": " ++ fault.message)
  | fault => fault

/-- The script at a path. -/
def load (runtime : Runtime) (path : String) : Action Host Script := do
  match ← (Host.readText path).attempt with
  | .error fault => throw (unreadable path fault)
  | .ok source => .ofExcept (ofText runtime path source)

end Script

end Converge
