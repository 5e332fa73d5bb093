import Converge.Fault
import Converge.Host.Console
import Converge.Host.FileSystem
import Converge.Text.Utf8

/-!
# Hosts and actions

A host is the system on which a run happens: its files, the working directory, the environment, the
console and what starting a command does. An action changes a state that has a host in it and
returns a result or stops with a fault; what it changed before it stopped stays changed.
-/

namespace Converge

/-- A command to be started: its words, the program first, and the directory in which it runs if
that is not the current one. -/
structure Command where
  words : List ByteArray
  directory : Option String

/-- What starting a command comes to: a refusal, or its status and all that it printed. -/
inductive Launch where
  | refused (errno : Errno)
  | ended (status : Int) (output : ByteArray)

/-- What commands do, given those asked for before, the newest first: an outcome and other files. -/
abbrev Launcher := List Command → Command → FileSystem → Launch × FileSystem

/-- The system on which a run happens. -/
structure Host where
  files : FileSystem
  cwd : Place
  environment : Table String
  console : Console
  launcher : Launcher
  /-- The commands that the system was asked to start, the newest first. -/
  asked : List Command

/-- A result or a fault, and the state that is left. -/
abbrev Action (σ : Type) := ExceptT Fault (StateM σ)

/-- A state with a host in it. -/
class Hosted (σ : Type) where
  host : σ → Host
  withHost : σ → Host → σ
  host_withHost : ∀ s h, host (withHost s h) = h
  withHost_host : ∀ s, withHost s (host s) = s
  withHost_withHost : ∀ s g h, withHost (withHost s g) h = withHost s h

instance : Hosted Host where
  host h := h
  withHost _ h := h
  host_withHost _ _ := rfl
  withHost_host _ := rfl
  withHost_withHost _ _ _ := rfl

namespace Action

variable {σ α : Type}

/-- What an action comes to from a state. -/
def result (a : Action σ α) (s : σ) : Except Fault α × σ := (ExceptT.run a).run s

/-- The action that comes to what a function says. -/
def of (f : σ → Except Fault α × σ) : Action σ α := ExceptT.mk (fun s => f s)

@[simp] theorem result_of (f : σ → Except Fault α × σ) (s : σ) : (of f).result s = f s := rfl

def onHost [Hosted σ] (a : Action Host α) : Action σ α :=
  of fun s =>
    let (r, h) := a.result (Hosted.host s)
    (r, Hosted.withHost s h)

/-- A result or fault as an action that changes nothing. -/
def ofExcept (r : Except Fault α) : Action σ α := of fun s => (r, s)

/-- The action that never stops: its outcome is its result. -/
def attempt (a : Action σ α) : Action σ (Except Fault α) :=
  of fun s =>
    let (r, s) := a.result s
    (.ok r, s)

def onConsole [Hosted σ] (f : Console → Console) : Action σ Unit :=
  of fun s =>
    let h := Hosted.host s
    (.ok (), Hosted.withHost s { h with console := f h.console })

/-- A line on the usual output. -/
def print [Hosted σ] (text : String) : Action σ Unit :=
  of fun s =>
    let h := Hosted.host s
    match h.console.print text with
    | .ok console => (.ok (), Hosted.withHost s { h with console })
    | .error fault => (.error (.encoding fault), s)

/-- A line on the output for errors. -/
def printError [Hosted σ] (text : String) : Action σ Unit := onConsole (·.printError text)

def log [Hosted σ] (level : Level) (message : String) : Action σ Unit :=
  onConsole (·.log level message)

end Action

end Converge
