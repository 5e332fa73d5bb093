import Converge.Backend.Basic
import Converge.Document.Print
import Converge.Ledger
import Converge.Options
import Converge.Script.Arguments
import Converge.Script.Load

/-!
# Sessions

A session carries out the calls of a script against a pair of backends and keeps the ledger. It
alone decides what a failure means: it is recorded, and unless the run is to go on the script stops
there. A run ends with its summary and the list of its failures.
-/

namespace Converge

/-- The ledger of a run beside the rest of the state. -/
structure Run (σ : Type) where
  ledger : Ledger
  world : σ

instance {σ : Type} [Hosted σ] : Hosted (Run σ) where
  host r := Hosted.host r.world
  withHost r h := { r with world := Hosted.withHost r.world h }
  host_withHost _ _ := Hosted.host_withHost _ _
  withHost_host r := by cases r; simp [Hosted.withHost_host]
  withHost_withHost _ _ _ := by simp [Hosted.withHost_withHost]

/-- Backends, options and surroundings of a script's calls. -/
structure Session (σ : Type) where
  backends : Backends σ
  options : Options
  runtime : Runtime

namespace Session

variable {σ α : Type}

/-- An action on the rest of the state. -/
def onWorld (a : Action σ α) : Action (Run σ) α :=
  .of fun r =>
    let (result, world) := a.result r.world
    (result, { r with world })

/-- A change of the ledger. -/
def record (f : Ledger → Ledger) : Action (Run σ) Unit :=
  .of fun r => (.ok (), { r with ledger := f r.ledger })

/-- A line on the usual output, if it is asked for. -/
def printIf [Hosted σ] (asked : Bool) (text : Except Fault String) : Action (Run σ) Unit :=
  if asked then do Action.print (← .ofExcept text) else pure ()

/-! ## Calls -/

def enforce [Hosted σ] (s : Session σ) (r : Resource) : Action (Run σ) Enforcement := do
  printIf s.options.verbose (.ok ("Enforcing " ++ r.display))
  let result ← onWorld (s.backends.enforce r)
  printIf s.options.debug result.literal
  if !result.succeeded then do
    let usual := (Fault.enforcement r.display).message
    let message := match result.failure with
      | some message => if message = "" then usual else message
      | none => usual
    record (·.recordFailures [message])
    if !s.options.keepGoing then throw (.enforcement r.display)
  record (·.recordResources [result.resource])
  return result

/-- The entries that a value brings; one that counts as nothing brings none. -/
def entriesOf (params : Value) : Except Fault (List (Value × Value)) :=
  if params.isTruthy then
    match params.entries? with
    | some entries => .ok entries
    | none => .error (.misuse (.entriesFromValue params.fullTypeName))
  else .ok []

/-- A call for a resource: what is given under names of its own comes after the parameters, or in
their place. -/
def resource [Hosted σ] (s : Session σ) (type name params : Value) (extra : Table Value) :
    Action (Run σ) Enforcement := do
  let entries ← .ofExcept (entriesOf params)
  let all := extra.entries.foldl (fun es e => Value.insertEntry (.text e.1) e.2 es) entries
  match Resource.build type name (.map none all) with
  | .error report => throw (.invalid report)
  | .ok r => s.enforce r

/-- What becomes of a block of code; one that is no text is rendered first. -/
def blockResult (s : Session σ) (code : Value) : Action (Run σ) BlockResult :=
  match code with
  | .text _ => onWorld (s.backends.applyBlock code)
  | v => match Document.dump v with
    | .ok text => onWorld (s.backends.applyBlock (.text text))
    | .error fault =>
      if fault.isMalformed then
        return .refused ["Could not render code block: " ++ fault.message]
      else throw (.document fault)

/-- A call for a block of code. -/
def apply [Hosted σ] (s : Session σ) (code : Value) : Action (Run σ) BlockResult := do
  printIf s.options.verbose (.ok "Running code block")
  let result ← s.blockResult code
  printIf s.options.debug result.literal
  if !result.succeeded then do
    let usual := Fault.blockEnforcement.message
    record (·.recordFailures (if result.failures.isEmpty then [usual] else result.failures))
    if !s.options.keepGoing then throw .blockEnforcement
  record (·.recordResources result.resources)
  return result

/-! ## Scripts -/

/-- An instruction carried out. -/
def perform [Hosted σ] (s : Session σ) : Instruction → Action (Run σ) Unit
  | .resource type name params => do
    let params := (params.map fun p => (Code.mapping p).toValue).getD .null
    let _ ← s.resource (.text type) (.text name) params ∅
  | .block (.text code) => do
    let _ ← s.apply (.text code)
  | .block (.mapping entries) => do
    match Document.dump (Code.mapping entries).toValue with
    | .ok code => do
      let _ ← s.apply (.text code)
    | .error fault => throw (.document fault)

def resourceCallee : Callee := ⟨"ScriptInterpreter.resource", ["type", "name"], ["params"], true⟩

def applyCallee : Callee := ⟨"ScriptInterpreter.apply", ["code"], [], false⟩

/-- A call for a resource with arguments as they are given. -/
def callResource [Hosted σ] (s : Session σ) (positional : List Value)
    (named : List (String × Value)) : Action (Run σ) Enforcement := do
  let (given, extra) ← .ofExcept (resourceCallee.bind positional named)
  let value (name : String) : Value := (given.get? name).getD .null
  s.resource (value "type") (value "name") (value "params") extra

/-- A call for a block of code with arguments as they are given. -/
def callApply [Hosted σ] (s : Session σ) (positional : List Value)
    (named : List (String × Value)) : Action (Run σ) BlockResult := do
  let (given, _) ← .ofExcept (applyCallee.bind positional named)
  s.apply ((given.get? "code").getD .null)

/-- The program of a script carried out. -/
def proceed [Hosted σ] (s : Session σ) : Routine → Action (Run σ) Unit
  | .done => pure ()
  | .raise fault => throw fault
  | .own step next => do s.proceed (next (← (Action.onHost step).attempt))
  | .resource positional named next => do s.proceed (next (← (s.callResource positional named).attempt))
  | .apply positional named next => do s.proceed (next (← (s.callApply positional named).attempt))

/-- The end of a script by a failed call stays what it is; any other fault is one of the script, if it
has a text. -/
def asScriptFault (path : String) : Fault → Fault
  | .enforcement ref => .enforcement ref
  | .blockEnforcement => .blockEnforcement
  | fault => match fault.text with
    | .ok text => .script (path ++ ": " ++ fault.kind ++ ": " ++ text)
    | .error raised => raised

def inScript (path : String) (a : Action σ α) : Action σ α := do
  match ← a.attempt with
  | .ok x => return x
  | .error fault => throw (asScriptFault path fault)

/-- A script carried out from the first line to the last. -/
def evaluate [Hosted σ] (s : Session σ) : Script → Action (Run σ) Unit
  | .instructions path is => is.forM fun i => inScript path (s.perform i)
  | .calls path program => inScript path (s.proceed (program s.runtime.facts))

/-! ## Runs -/

/-- What a script comes to is printed or recorded; other faults go on. -/
def settle [Hosted σ] : Except Fault Unit → Action (Run σ) Unit
  | .ok () => pure ()
  | .error (.enforcement ref) => Action.printError (Fault.enforcement ref).message
  | .error .blockEnforcement => Action.printError Fault.blockEnforcement.message
  | .error (.script message) => record (·.recordFailures [message])
  | .error fault => throw fault

/-- The words beside the path of the script are passed over. -/
def warnExtra [Hosted σ] (extra : List String) : Action (Run σ) Unit :=
  if extra.isEmpty then pure ()
  else
    Action.log .warning
      ("Only one script will be executed per run.  Skipping " ++ ", ".intercalate extra)

/-- The summary and the failures are printed; the number of failures is the result. -/
def close [Hosted σ] : Action (Run σ) Nat := do
  let ledger := (← get).ledger
  Action.print ledger.summary
  ledger.errors.forM fun e => Action.printError e
  return ledger.exitCode

def run [Hosted σ] (s : Session σ) (path : String) (extra : List String) : Action (Run σ) Nat := do
  let path := Path.normal path
  if !(← Action.onHost (Host.exists? path)) then throw (.scriptNotFound path)
  warnExtra extra
  record fun _ => .empty
  let outcome ← Action.attempt do
    let script ← Action.onHost (Script.load s.runtime path)
    Action.log .debug ("Evaluating " ++ path)
    s.evaluate script
  settle outcome
  close

/-- A run that begins with nothing recorded and leaves no ledger. -/
def runAlone [Hosted σ] (s : Session σ) (path : String) (extra : List String) : Action σ Nat :=
  .of fun world =>
    let (result, r) := (s.run path extra).result ⟨.empty, world⟩
    (result, r.world)

end Session

end Converge
