import Converge.Table
import Converge.Value

/-!
# Facts

What scripts can ask about the machine on which they run.
-/

namespace Converge

/-- What is known of a machine. -/
structure Machine where
  /-- The name by which the machine knows itself. -/
  hostname : String
  /-- The name with its domain. -/
  fullName : String
  kernel : String
  release : String
  architecture : String
  family : String
  version : String
  processors : Nat
deriving DecidableEq, Repr

namespace Machine

/-- The part of a name before its first point. -/
def shortName (name : String) : String := String.ofList (name.toList.takeWhile (· ≠ '.'))

def facts (m : Machine) : Table Value :=
  .ofList [
    ("hostname", .text (shortName m.hostname)),
    ("fqdn", .text m.fullName),
    ("kernel", .text m.kernel),
    ("kernelrelease", .text m.release),
    ("architecture", .text m.architecture),
    ("os_family", .text m.family),
    ("python_version", .text m.version),
    ("processorcount", .int (max m.processors 1))]

end Machine

end Converge
