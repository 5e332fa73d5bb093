import Converge.Document.Print
import Converge.Fault
import Converge.Resource

/-!
# From resources to a block of code

Resources are written as the document that would declare them: under their types, in the order in
which these first appear.
-/

namespace Converge

def Parameters.toValue (p : Parameters) : Value :=
  .map none (p.entries.map fun e => (.text e.1, e.2))

namespace Catalog

/-- Parameters under names, under types. -/
abbrev Grouped := Table (Table Parameters)

def group (groups : Grouped) (r : Resource) : Grouped :=
  groups.insert r.ref.type (((groups.get? r.ref.type).getD ∅).insert r.ref.name r.parameters)

def codeValue (resources : List Resource) : Value :=
  let groups := resources.foldl group ∅
  .map none (groups.entries.map fun (type, named) =>
    (.text type, .map none (named.entries.map fun (name, p) => (.text name, Parameters.toValue p))))

/-- The block of code that declares resources. -/
def render (resources : List Resource) : Except Fault String :=
  (Document.dump (codeValue resources)).mapError .document

end Catalog

end Converge
