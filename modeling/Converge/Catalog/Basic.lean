import Converge.ResourceType.Rules

/-!
# Catalogs

A catalog holds resources with pairwise different display forms, in the order of declaration. Once
it is finalized it also holds what each resource depends on and the order of evaluation; another
resource takes the order away.
-/

namespace Converge

/-- The name of a node for which none is given. -/
def defaultNode : String := "script"

/-- Resources with their dependencies and their order, when these are known. -/
structure Catalog where
  node : String
  /-- The resources under their display forms. -/
  resources : Table Resource
  /-- What each resource depends on. -/
  dependencies : Table (List String)
  /-- The display forms in the order of evaluation. -/
  order : Option (List String)

namespace Catalog

/-- The catalog of a node without resources. -/
def empty (node : String) : Catalog := ⟨node, ∅, ∅, none⟩

/-- The number of resources. -/
def size (c : Catalog) : Nat := c.resources.size

def declared (c : Catalog) : List Resource := c.resources.values

/-- The resource of a display form. -/
def resource? (c : Catalog) (ref : String) : Option Resource := c.resources.get? ref

/-- One resource more, if its display form is new. -/
def add (c : Catalog) (r : Resource) : Except Fault Unit × Catalog :=
  if c.resources.contains r.display then (.error (.catalog (.duplicate r.display)), c)
  else (.ok (), { c with resources := c.resources.insert r.display r, order := none })

/-- The catalog with one resource more, where a refusal leaves no catalog. -/
def extend (c : Catalog) (r : Resource) : Except Fault Catalog := do
  let (result, c) := c.add r
  result
  return c

/-- The resources in the order of evaluation, once it is known. -/
def ordered (c : Catalog) : Except Fault (List Resource) :=
  match c.order with
  | none => .error (.catalog (.notFinalized c.node))
  | some refs => .ok (refs.filterMap c.resource?)

def dependenciesOf (c : Catalog) (r : Resource) : List String :=
  (c.dependencies.get? r.display).getD []

end Catalog

end Converge
