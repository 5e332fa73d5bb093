import Converge.CommandLine.Option
import Converge.Host.Files
import Converge.Options

/-!
# Requests

What a command line asks for: to run a script, to apply a block of code in this process, or to be
told how the program is called. What stands later on the line counts.
-/

namespace Converge.CommandLine

/-- A script to run. -/
structure RunRequest where
  script : String
  /-- The words that are passed over. -/
  extra : List String
  options : Options
  backend : Option String
  noop : Option Bool
  config : Option String

/-- A block of code to apply, in a file or on the command line itself. -/
structure ApplyRequest where
  file : Option String
  code : Option String
  debug : Bool
  verbose : Bool
  noop : Option Bool
  config : Option String

/-- What a command line asks for. -/
inductive Request where
  | run (r : RunRequest)
  | apply (r : ApplyRequest)
  | help

/-- The option that every command has. -/
def helpForm : Form := ⟨.help, "--help", none, false⟩

/-- The options that both commands have. -/
def commonForms : List Form := [
  ⟨.debug, "--debug", some 'd', false⟩,
  ⟨.verbose, "--verbose", some 'v', false⟩,
  ⟨.noop, "--noop", none, false⟩,
  ⟨.noNoop, "--no-noop", none, false⟩,
  ⟨.config, "--config", none, true⟩,
  helpForm]

/-- The options for running a script. -/
def runForms : List Form :=
  commonForms ++
    [⟨.keepGoing, "--keep-going", some 'k', false⟩, ⟨.backend, "--backend", some 'b', true⟩]

/-- The options for applying a block. -/
def applyForms : List Form := commonForms ++ [⟨.execute, "--execute", some 'e', true⟩]

/-- A word that should be a path, under the name of what it is for. -/
def checkPath (name word : String) : Except UsageFault Unit :=
  (Host.checkPath word).mapError fun fault => .badPath name fault.message

def readRun (words : List String) : Except UsageFault Request := do
  let w ← sort runForms true words
  if w.has .help then return .help
  match w.others with
  | [] => throw (.noWord "SCRIPT")
  | script :: extra =>
    checkPath "SCRIPT" script
    (w.last? .config).forM (checkPath "--config")
    return .run {
      script, extra
      options := ⟨w.has .debug, w.has .keepGoing, w.has .verbose⟩
      backend := w.last? .backend
      noop := w.lastOf? .noop .noNoop
      config := w.last? .config }

def readApply (words : List String) : Except UsageFault Request := do
  let w ← sort applyForms true words
  if w.has .help then return .help
  match w.others with
  | _ :: second :: more => throw (.extraWords (second :: more))
  | files =>
    files.forM (checkPath "[FILE]")
    (w.last? .config).forM (checkPath "--config")
    return .apply {
      file := files.head?
      code := w.last? .execute
      debug := w.has .debug
      verbose := w.has .verbose
      noop := w.lastOf? .noop .noNoop
      config := w.last? .config }

/-- What a command line asks for. -/
def Request.read (words : List String) : Except UsageFault Request := do
  let w ← sort [helpForm] false words
  if w.has .help then return .help
  match w.others with
  | [] => throw .noCommand
  | "run" :: rest => readRun rest
  | "apply" :: rest => readApply rest
  | name :: _ => throw (.unknownCommand name)

end Converge.CommandLine
