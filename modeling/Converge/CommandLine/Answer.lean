import Converge.Backend.Choice
import Converge.CommandLine.Request
import Converge.Facts
import Converge.Session

/-!
# Answering a command line

A request is carried out on the host and ends with an exit status. The status of a run is the number
of its failures, as far as a status can say it; that of an applied block is 0 or 1. A command line
that cannot be followed ends with 2. Faults that no message is meant for are left to the caller.
-/

namespace Converge.CommandLine

/-- How the program ends: its status, and whether the command line was no use. -/
structure Exit where
  status : Nat
  isUsage : Bool
deriving DecidableEq, Repr

def Exit.ofStatus (status : Nat) : Exit := ⟨status, false⟩

def maxStatus : Nat := 255

/-- The status for a command line that cannot be followed. -/
def usageStatus : Nat := 2

/-! ## Messages about the command line -/

def frameWidth : Nat := 200

/-- The text in columns, with blanks behind it. -/
def padded (width : Nat) (blank : Char) (text : String) : String :=
  text ++ String.ofList (List.replicate (width - text.length) blank)

def framed (message : String) : String :=
  "╭─ Error " ++ padded (frameWidth - 10) '─' "" ++ "╮\n│ " ++ padded (frameWidth - 4) ' ' message ++
    " │\n╰" ++ padded (frameWidth - 2) '─' "" ++ "╯"

/-- How the program is called. -/
def usage : String :=
  "Usage: converge run [OPTIONS] SCRIPT [EXTRA]...\n       converge apply [OPTIONS] [FILE]"

/-- What is wrong with the command line is shown, and how the program is called if that helps. -/
def refuseUsage (fault : UsageFault) : Action Host Exit := do
  if !fault.isAboutValue then Action.printError usage
  Action.printError (framed fault.message)
  return ⟨usageStatus, !fault.isAboutValue⟩

/-! ## Requests -/

/-- The end with a message among the errors. -/
def refuse (message : String) : Action Host Exit := do
  Action.printError message
  return .ofStatus 1

/-- From which weight on records are shown. -/
def thresholdOf (debug verbose : Bool) : Level :=
  if debug then .debug else if verbose then .info else .warning

/-- Records are shown from a weight on. -/
def showFrom (level : Level) : Action Host Unit :=
  Action.onConsole fun c => { c with threshold := some level }

/-- The settings at a path, and a dry run or not as the command line says. -/
def settingsOf (sets : Value.SetOrder) (config : Option String) (noop : Option Bool) : Action Host Settings := do
  let settings ← Settings.load sets (config.map Path.normal)
  return { settings with noop := noop.getD settings.noop }

def strategyOf (runtime : Runtime) (r : RunRequest) : Action Host Strategy := do
  let settings ← settingsOf runtime.sets r.config r.noop
  let h ← get
  .ofExcept (Strategy.choose runtime.executable h.environment settings r.backend)

def run (runtime : Runtime) (r : RunRequest) : Action Host Exit := do
  showFrom (thresholdOf r.options.debug r.options.verbose)
  match ← (strategyOf runtime r).attempt with
  | .error fault => if fault.isValueFault then refuse fault.message else throw fault
  | .ok strategy =>
    let session : Session Host := ⟨strategy.backends runtime.sets, r.options, runtime⟩
    match ← (session.runAlone r.script r.extra).attempt with
    | .ok failures => return .ofStatus (min failures maxStatus)
    | .error (.scriptNotFound path) => refuse (Fault.scriptNotFound path).message
    | .error fault => throw fault

/-- The code of a request: what stands on the command line, or else in the file. -/
def codeOf (r : ApplyRequest) : Action Host (Except String String) := do
  match r.code, r.file with
  | some code, _ => return .ok code
  | none, none => return .error "Nothing to apply: pass a file or --execute"
  | none, some file =>
    let path := Path.normal file
    match ← (Host.readText path).attempt with
    | .ok code => return .ok code
    | .error (.system fault) => return .error ("Could not read " ++ path ++ ": " ++ fault.message)
    | .error fault => throw fault

/-- A block of code is applied in this process. -/
def apply (sets : Value.SetOrder) (r : ApplyRequest) : Action Host Exit := do
  showFrom (thresholdOf r.debug r.verbose)
  match ← codeOf r with
  | .error message => refuse message
  | .ok code =>
    let settings ← settingsOf sets r.config r.noop
    let result ← Local.applyBlock Store.applier sets settings.node settings.noop (.text code)
    if r.verbose then result.resources.forM fun x => Action.print ("Applied " ++ x.display)
    result.failures.forM fun message => Action.printError message
    return .ofStatus (if result.succeeded then 0 else 1)

/-- The command line is answered. -/
def answer (runtime : Runtime) (words : List String) : Action Host Exit :=
  match Request.read words with
  | .error fault => refuseUsage fault
  | .ok (.run r) => run runtime r
  | .ok (.apply r) => apply runtime.sets r
  | .ok .help => do
    Action.print usage
    return .ofStatus 0

end Converge.CommandLine
