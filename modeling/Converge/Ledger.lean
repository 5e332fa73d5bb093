import Converge.Resource

/-!
# The ledger of a run

A run keeps the messages of its failures and the resources that it enforced or tried to, in order.
-/

namespace Converge

/-- Failures and resources of a run so far. -/
structure Ledger where
  errors : List String
  resources : List Resource

namespace Ledger

/-- The ledger before anything happened. -/
def empty : Ledger := ⟨[], []⟩

instance : Inhabited Ledger := ⟨empty⟩

def recordFailures (l : Ledger) (messages : List String) : Ledger :=
  { l with errors := l.errors ++ messages }

def recordResources (l : Ledger) (resources : List Resource) : Ledger :=
  { l with resources := l.resources ++ resources }

/-- The number of failures, with which a run ends. -/
def exitCode (l : Ledger) : Nat := l.errors.length

/-- The line that ends a run. -/
def summary (l : Ledger) : String :=
  "Managed " ++ toString l.resources.length ++ " resources with " ++ toString l.errors.length ++
    " failures."

@[simp] theorem exitCode_recordFailures (l : Ledger) (messages : List String) :
    (l.recordFailures messages).exitCode = l.exitCode + messages.length := by
  simp [exitCode, recordFailures]

@[simp] theorem exitCode_recordResources (l : Ledger) (resources : List Resource) :
    (l.recordResources resources).exitCode = l.exitCode := rfl

end Ledger

end Converge
