import Converge.Host.Process
import Converge.ResourceType.Change
import Converge.ResourceType.Rules

/-!
# Commands

A command runs unless the path that it creates exists or its guard succeeds. Whether it succeeded is
judged by its status. A command or a guard that the system refuses to start is a failure.
-/

namespace Converge.ResourceType.Exec

/-- The one event of a command. -/
def ended (outcome : Outcome) (message : String) : List Event := [⟨"returns", outcome, message⟩]

def commandText (r : Resource) : Action Host String := .ofExcept (commandOf r).shown

def wordsOf (line : Value) : Except Fault (List Value) :=
  match line with
  | .text s => match Words.split s with
    | .ok words => .ok (words.map .text)
    | .error fault => .error (.words fault)
  | v => .error (.misuse (.noOperation v.fullTypeName "read"))

def run (line directory : Value) : Action Host (Int × String) := do
  let words ← .ofExcept (wordsOf line)
  Host.run words directory

/-- The path that makes the command needless exists. -/
def isCreated (r : Resource) : Action Host Bool := do
  match createsOf r with
  | .text s => if s = "" then return false else Host.exists? (Path.normal s)
  | v =>
    if !v.isTruthy then return false
    else match v with
      | .bytes _ => throw (.misuse .pathFromBytes)
      | v => throw (.misuse (.pathFromValue v.typeName))

def isGuarded (r : Resource) (directory : Value) : Action Host Bool := do
  match (r.param? "unless").getD .null with
  | .null => return false
  | line => do
    let (status, _) ← run line directory
    return status = 0

/-- The judgement of a command that has run. -/
def judge (r : Resource) (status : Int) (output : String) : Action Host (List Event) := do
  (Text.splitLines output).forM fun line => Action.log .debug (r.display ++ ": " ++ line)
  let returns ← .ofExcept (returnsOf r)
  if returns.contains status then return ended .success "executed successfully"
  else do
    let expected ← returns.mapM fun i => .ofExcept (Value.int i).shown
    return ended .failure
      ("'" ++ (← commandText r) ++ "' returned " ++ toString status ++ " instead of one of [" ++
        ", ".intercalate expected ++ "]")

/-- The guard and the command, and what they come to: no event when the guard succeeds. -/
def start (r : Resource) (noop : Bool) : Action Host (Except (List Event) (Int × String)) := do
  let directory := (r.param? "cwd").getD .null
  if ← isGuarded r directory then return .error []
  else if noop then
    return .error (ended .noop ("would have executed '" ++ (← commandText r) ++ "' (noop)"))
  else return .ok (← run (commandOf r) directory)

/-- A command resource brought about. -/
def apply (r : Resource) (noop : Bool) : Action Host (List Event) := do
  if ← isCreated r then return []
  else do
    match ← (start r noop).attempt with
    | .ok (.error events) => return events
    | .ok (.ok (status, output)) => judge r status output
    | .error (.system fault) =>
      return ended .failure ("Could not execute '" ++ (← commandText r) ++ "': " ++ fault.errno.text)
    | .error fault => throw fault

end Converge.ResourceType.Exec
