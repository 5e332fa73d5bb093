import Converge.Fault
import Converge.Resource

/-!
# Types of resources

The types that are known, with the parameters that each accepts. Every type accepts the parameters
that relate resources to each other and the one that asks for a dry run.
-/

namespace Converge

/-- A known type. -/
inductive ResourceType where
  | file
  | exec
  | notify
  | stage
  | classes
  | schedule
  | filebucket
deriving DecidableEq, Repr

namespace ResourceType

def name : ResourceType → String
  | file => "file"
  | exec => "exec"
  | notify => "notify"
  | stage => "stage"
  | classes => "class"
  | schedule => "schedule"
  | filebucket => "filebucket"

/-- The known types in the order of their names. -/
def all : List ResourceType := [classes, exec, file, filebucket, notify, schedule, stage]

def ofName? (name : String) : Option ResourceType := all.find? fun t => t.name == name

/-- The type of a name, or the fault that there is none. -/
def get (name : String) : Except Fault ResourceType :=
  match ofName? name with
  | some t => .ok t
  | none => .error (.catalog (.unknownType name))

/-- A type is known by its own name alone. -/
theorem name_of_get {name : String} {type : ResourceType} (known : get name = .ok type) : name = type.name := by
  rw [get] at known
  split at known
  · next found =>
    obtain rfl := Except.ok.inj known
    rw [ofName?] at found
    have same := List.find?_some found
    exact (eq_of_beq same).symm
  · cases known

def parameters : ResourceType → List String
  | file => ["ensure", "content", "mode"]
  | exec => ["command", "creates", "unless", "cwd", "returns"]
  | notify => ["message"]
  | schedule => ["period", "repeat", "range"]
  | filebucket => ["path"]
  | stage | classes => []

/-- The parameters that every type accepts. -/
def metaparameters : List String := ["require", "before", "noop"]

/-- The first parameter that a type does not accept. -/
def unknownParameter? (t : ResourceType) (r : Resource) : Option String :=
  r.parameters.keys.find? fun p => !(t.parameters.contains p || metaparameters.contains p)

/-- What every type asks of a resource: known parameters, and a truth value for a dry run. -/
def validateCommon (t : ResourceType) (r : Resource) : Except Fault Unit :=
  match t.unknownParameter? r with
  | some p => .error (.catalog (.invalidParameter r.display p))
  | none => match r.param? "noop" with
    | none | some .null | some (.bool _) => .ok ()
    | some v => do throw (.catalog (.invalidNoop r.display (← v.shown)))

end ResourceType

end Converge
