import Converge.ResourceType.Apply
import Converge.Transaction

/-!
# The store

A single resource is brought about through a catalog that holds it alone, addressed by its key.
-/

namespace Converge

/-- A store for the resources of a node; in a dry run nothing is changed. -/
structure Store where
  node : String
  noop : Bool
deriving DecidableEq, Repr

namespace Store

def catalogOf (node : String) (r : Resource) : Except Fault Catalog := do
  let c ← (Catalog.empty node).extend r
  let (result, c) := c.finalize
  result
  return c

/-- How resources are brought about on the host. -/
def applier {σ : Type} [Hosted σ] : Applier σ :=
  fun r noop => Action.onHost (ResourceType.applyResource r noop)

/-- A resource is brought about; the key must be its own. -/
def save {σ : Type} [Hosted σ] (s : Store) (apply : Applier σ) (r : Resource) (key : String) :
    Action σ Report := do
  if key ≠ r.ref.key then throw (.wrongKey key r.display)
  let c ← .ofExcept (catalogOf s.node r)
  Transaction.evaluate apply s.noop c (.start s.node)

end Store

end Converge
