import Converge.Host.Path
import Converge.ResourceType.Basic

/-!
# What makes a resource valid

A file has an absolute path, one of four states, a text for its content and permission bits that
make sense. A command is a text that is not blank, the path that it creates is absolute, and the
statuses that it may return are whole numbers. The other types ask for nothing of their own.
-/

namespace Converge.ResourceType

/-! ## Files -/

/-- The states that a file can be asked for. -/
def ensureWords : List String := ["present", "file", "absent", "directory"]

/-- The state asked for, or that for which nothing is said. -/
def ensureOf (r : Resource) : Value := (r.param? "ensure").getD (.text "present")

/-- The state asked for is one of those known. -/
def ensureWord? (r : Resource) : Option String :=
  match ensureOf r with
  | .text s => if ensureWords.contains s then some s else none
  | _ => none

/-- The content of a file, if any is given. -/
def contentOf (r : Resource) : Option Value :=
  match r.param? "content" with
  | some .null => none
  | v => v

/-- Three or four octal digits, with a line feed after them or none. -/
def octalMode? (s : List Char) : Option Nat :=
  let digits := match s.reverse with
    | '\n' :: rest => rest.reverse
    | _ => s
  if (digits.length = 3 ∨ digits.length = 4) ∧ digits.all fun c => '0' ≤ c && c ≤ '7' then
    some (digits.foldl (fun n c => n * 8 + (c.toNat - 48)) 0)
  else none

/-- The permission bits asked for, if any are. -/
def modeOf (r : Resource) : Except Fault (Option Nat) :=
  let invalid (v : Value) : Except Fault (Option Nat) := do
    throw (.catalog (.invalidMode r.display (← v.shown)))
  match r.param? "mode" with
  | none | some .null => .ok none
  | some (.int i) => if 0 ≤ i ∧ i ≤ 0o7777 then .ok (some i.toNat) else invalid (.int i)
  | some (.text s) => match octalMode? s.toList with
    | some mode => .ok (some mode)
    | none => invalid (.text s)
  | some v => invalid v

/-- What a file must satisfy. -/
def validateFile (r : Resource) : Except Fault Unit := do
  if !Path.isAbsolute r.ref.name then
    throw (.catalog (.relativeFile r.display r.ref.name))
  if (ensureWord? r).isNone then
    throw (.catalog (.invalidEnsure r.display (← (ensureOf r).shown) ensureWords))
  match contentOf r with
  | none | some (.text _) => pure ()
  | some _ => throw (.catalog (.contentNotText r.display))
  let _ ← modeOf r

/-! ## Commands -/

/-- The command line: that given, or the name of the resource. -/
def commandOf (r : Resource) : Value := (r.param? "command").getD (.text r.ref.name)

/-- The path whose existence makes a command needless. -/
def createsOf (r : Resource) : Value := (r.param? "creates").getD .null

/-- The list of statuses that count as success, as it is given. -/
def givenReturns (r : Resource) : Value :=
  match r.param? "returns" with
  | none => .list none [.int 0]
  | some (.list share items) => .list share items
  | some v => .list none [v]

/-- The whole number that a value is or writes; a number loses its fraction. -/
def statusOf (v : Value) : Except Fault (Option Int) :=
  match v with
  | .bool b => .ok (some (if b then 1 else 0))
  | .int i => .ok (some i)
  | .float (.infinite _) => .error .infiniteStatus
  | .float d => .ok d.truncate?
  | .text s => .ok (Text.readWhole 10 s).toOption
  | .bytes b => .ok (Text.readWholeBytes b).toOption
  | _ => .ok none

/-- The statuses that values stand for; the first value that is none stops the reading. -/
def statusesOf : List Value → Except Fault (Option (List Int))
  | [] => .ok (some [])
  | v :: rest => do
    match ← statusOf v with
    | none => return none
    | some i => return (← statusesOf rest).map (i :: ·)

/-- The statuses that count as success. -/
def returnsOf (r : Resource) : Except Fault (List Int) := do
  match ← statusesOf ((givenReturns r).items?.getD []) with
  | some statuses => return statuses
  | none => throw (.catalog (.invalidReturns r.display (← (givenReturns r).shown)))

/-- What a command must satisfy. -/
def validateExec (r : Resource) : Except Fault Unit := do
  match commandOf r with
  | .text s => if Text.strip s = "" then throw (.catalog (.emptyCommand r.display))
  | _ => throw (.catalog (.emptyCommand r.display))
  match createsOf r with
  | .null => pure ()
  | v => do
    let shown ← v.shown
    if !Path.isAbsolute shown then throw (.catalog (.relativeCreates r.display shown))
  let _ ← returnsOf r

/-! ## Every type -/

/-- What a resource of a type must satisfy. -/
def validate (t : ResourceType) (r : Resource) : Except Fault Unit := do
  t.validateCommon r
  match t with
  | file => validateFile r
  | exec => validateExec r
  | _ => pure ()

/-- What a resource must satisfy: its type is known, and asks no more of it. -/
def validateResource (r : Resource) : Except Fault Unit := do
  (← get r.ref.type).validate r

end Converge.ResourceType
