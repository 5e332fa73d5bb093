import Converge.Ref

/-!
# Resources

A resource is a reference with the parameters that it should be enforced with.
-/

namespace Converge

/-- Values under the names of parameters, in the order in which they are given. -/
abbrev Parameters := Table Value

/-- A reference and its parameters. -/
structure Resource where
  ref : Ref
  parameters : Parameters

namespace Resource

instance : Inhabited Resource := ⟨⟨default, ∅⟩⟩

def param? (r : Resource) (name : String) : Option Value := r.parameters.get? name

/-- The display form of the reference. -/
def display (r : Resource) : String := r.ref.display

/-- The title under which problems of resources are reported. -/
def title : String := "Resource"

/-- The resource of a reference and a value for its parameters; a value that counts as nothing
stands for none. -/
def withParameters (ref : Ref) (parameters : Value) : Except Validation.Report Resource :=
  if parameters.isTruthy then
    Validation.reported title
      ((Validation.readTable ["parameters"] parameters).map fun table => ⟨ref, table⟩)
  else .ok ⟨ref, ∅⟩

/-- The resource of a type, a name and a value for the parameters. -/
def build (type name parameters : Value) : Except Validation.Report Resource := do
  withParameters (← Ref.ofValues? type name) parameters

end Resource

end Converge
