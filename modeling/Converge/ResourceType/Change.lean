import Converge.Host.Files
import Converge.Report

/-!
# Changes of a property

A change is announced in a dry run, and otherwise made; a refusal of the system becomes an event,
while any other fault stops the action.
-/

namespace Converge

/-- The event of a change that is not made. -/
def Event.announced (property message : String) : Event :=
  ⟨property, .noop, message ++ " (noop)"⟩

def Event.refused (property should reason : String) : Event :=
  ⟨property, .failure, "Could not set '" ++ should ++ "' on " ++ property ++ ": " ++ reason⟩

def change (property should message : String) (action : Action Host Unit) (noop : Bool) :
    Action Host (List Event) :=
  if noop then return [.announced property message]
  else do
    match ← action.attempt with
    | .ok () => return [⟨property, .success, message⟩]
    | .error (.system fault) => return [.refused property should fault.errno.text]
    | .error fault => throw fault

end Converge
