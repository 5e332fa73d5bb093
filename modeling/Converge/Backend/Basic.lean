import Converge.Host.Basic
import Converge.Resource

/-!
# Backends

Two ways to have things enforced: a single resource, and a block of code. Each says whether it
succeeded and, if not, why.
-/

namespace Converge

/-- What became of a single resource. -/
structure Enforcement where
  succeeded : Bool
  failure : Option String
  resource : Resource

/-- What became of a block of code: the failures, and the resources that it managed. -/
structure BlockResult where
  succeeded : Bool
  failures : List String
  resources : List Resource

/-- How a resource and a block of code are enforced. -/
structure Backends (σ : Type) where
  enforce : Resource → Action σ Enforcement
  applyBlock : Value → Action σ BlockResult

def Enforcement.success (r : Resource) : Enforcement := ⟨true, none, r⟩

def Enforcement.refused (message : String) (r : Resource) : Enforcement := ⟨false, some message, r⟩

/-- A block of code that was not enforced as a whole. -/
def BlockResult.refused (failures : List String) : BlockResult := ⟨false, failures, []⟩

/-! ## The form for inspection -/

def Resource.literal (r : Resource) : Except Fault String := do
  let parameters ← (Value.map none (r.parameters.entries.map fun e => (.text e.1, e.2))).shown
  return "Resource(ref=ResourceRef(type=" ++ Text.quote r.ref.type ++ ", name=" ++ Text.quote r.ref.name ++
    "), parameters=" ++ parameters ++ ")"

/-- The result for a resource with its fields. -/
def Enforcement.literal (e : Enforcement) : Except Fault String := do
  return "EnforcementResult(succeeded=" ++ Value.boolText e.succeeded ++ ", failure_message=" ++
    ((e.failure.map Text.quote).getD "None") ++ ", resource=" ++ (← e.resource.literal) ++ ")"

def BlockResult.literal (b : BlockResult) : Except Fault String := do
  let resources ← b.resources.mapM Resource.literal
  return "BlockResult(succeeded=" ++ Value.boolText b.succeeded ++ ", failure_messages=[" ++
    ", ".intercalate (b.failures.map Text.quote) ++ "], resources=[" ++
    ", ".intercalate resources ++ "])"

end Converge
