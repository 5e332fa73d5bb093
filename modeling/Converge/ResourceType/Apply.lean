import Converge.ResourceType.Exec
import Converge.ResourceType.File

/-!
# Bringing a resource about

What each type does for a resource. A message is printed, and always counts as a change; the
resources that every catalog holds change nothing.
-/

namespace Converge.ResourceType

/-- A message printed. -/
def applyNotify (r : Resource) (noop : Bool) : Action Host (List Event) := do
  let message ← .ofExcept ((r.param? "message").getD (.text r.ref.name)).shown
  if noop then
    return [⟨"message", .noop, "would have defined 'message' as '" ++ message ++ "' (noop)"⟩]
  else do
    Action.print ("Notice: " ++ message)
    return [⟨"message", .success, "defined 'message' as '" ++ message ++ "'"⟩]

/-- A resource of a type brought about; in a dry run it is only announced. -/
def apply (t : ResourceType) (r : Resource) (noop : Bool) : Action Host (List Event) :=
  match t with
  | file => File.apply r noop
  | exec => Exec.apply r noop
  | notify => applyNotify r noop
  | stage | classes | schedule | filebucket => return []

/-- A resource brought about as its type says. -/
def applyResource (r : Resource) (noop : Bool) : Action Host (List Event) := do
  (← .ofExcept (get r.ref.type)).apply r noop

end Converge.ResourceType
