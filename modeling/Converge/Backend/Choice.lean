import Converge.Backend.Delegate
import Converge.Backend.Local
import Converge.Settings

/-!
# The choice of backends

Which backends a run uses: as is asked for, as the environment says, or as the settings do.
-/

namespace Converge

/-- A way to enforce, with what it needs. -/
inductive Strategy where
  | inProcess (node : String) (noop : Bool)
  | delegate (d : Delegate)
deriving DecidableEq, Repr

namespace Strategy

/-- The name of the variable that says which backend is used. -/
def variableName : String := "ENFORCESCRIPT_BACKEND"

/-- The strategy of a name, in any case of its letters, under some settings. -/
def ofName (executable : String) (settings : Settings) (name : String) : Except Fault Strategy :=
  let name := Text.lower name
  if name = BackendName.inProcess.word then .ok (.inProcess settings.node settings.noop)
  else if name = BackendName.delegate.word then
    .ok (.delegate (.ofWords executable (settings.command.getD [])))
  else .error (.unsupportedBackend name)

/-- The name of the backend: as is asked for, as the environment says, or as the settings do; an
empty name says nothing. -/
def nameOf (environment : Table String) (settings : Settings) (asked : Option String) : String :=
  let given := [asked, environment.get? variableName].filterMap id
  (given.find? (· ≠ "")).getD settings.backend.word

/-- The strategy of a run. -/
def choose (executable : String) (environment : Table String) (settings : Settings) (asked : Option String) :
    Except Fault Strategy :=
  ofName executable settings (nameOf environment settings asked)

def backends {σ : Type} [Hosted σ] (sets : Value.SetOrder) : Strategy → Backends σ
  | inProcess node noop => Local.backends sets node noop
  | delegate d => d.backends

end Strategy

end Converge
