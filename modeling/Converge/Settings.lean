import Converge.Catalog.Basic
import Converge.Document.Load
import Converge.Host.Files
import Converge.Options

/-!
# Settings

Which backend is used and how: the node and whether changes are only announced, for enforcing in
this process, and the command, for enforcing by another. Settings are read from a document, and
where it says nothing the usual ones hold.
-/

namespace Converge

/-- The ways to enforce. -/
inductive BackendName where
  | inProcess
  | delegate
deriving DecidableEq, Repr

/-- The words for the ways to enforce. -/
def BackendName.words : List (String × BackendName) :=
  [("local", .inProcess), ("delegate", .delegate)]

/-- The word for a way to enforce. -/
def BackendName.word : BackendName → String
  | inProcess => "local"
  | delegate => "delegate"

/-- Settings of a run. -/
structure Settings where
  backend : BackendName
  node : String
  noop : Bool
  /-- The words of the command that enforces, where one is given. -/
  command : Option (List String)
deriving DecidableEq, Repr

namespace Settings

open Validation

/-- The settings where nothing is said. -/
def usual : Settings := ⟨.inProcess, defaultNode, false, none⟩

instance : Inhabited Settings := ⟨usual⟩

/-- The entry of a mapping under a text. -/
def entry? (entries : List (Value × Value)) (name : String) : Option Value :=
  (entries.find? fun e => match e.1 with
    | .text s => s == name
    | _ => false).map Prod.snd

/-- The field of a mapping, or what holds without it. -/
def fieldOr {α : Type} (entries : List (Value × Value)) (name : String) (usual : α)
    (read : Value → Checked α) : Checked α :=
  match entry? entries name with
  | none => .ok usual
  | some v => read v

/-- The word for a way to enforce. -/
def readBackend (v : Value) : Checked BackendName :=
  let unknown : Checked BackendName :=
    .error [⟨["backend"], .choice (BackendName.words.map Prod.fst)⟩]
  match v with
  | .text s =>
    if Text.hasSurrogate s then .error [⟨["backend"], .unreadableText⟩]
    else match BackendName.words.lookup s with
      | some b => .ok b
      | none => unknown
  | _ => unknown

/-- The node and whether changes are only announced. -/
def readEngine (v : Value) : Checked (String × Bool) :=
  match v.entries? with
  | some entries =>
    both
      (fieldOr entries "node_name" defaultNode fun v => atPath ["engine", "node_name"] (readText v))
      (fieldOr entries "noop" false fun v => atPath ["engine", "noop"] (readTruth v))
  | none => .error [⟨["engine"], .record "EngineConfig"⟩]

/-- The words of a command, or nothing. -/
def readCommand (v : Value) : Checked (Option (List String)) :=
  let path := ["delegate", "command"]
  match v with
  | .null => .ok none
  | v => match v.members? with
    | none => .error [⟨path, .list⟩]
    | some items =>
      (each (fun (item, i) => atPath (path ++ [toString i]) (readText item)) items.zipIdx).map some

/-- The command that enforces. -/
def readDelegate (v : Value) : Checked (Option (List String)) :=
  match v.entries? with
  | some entries => fieldOr entries "command" none readCommand
  | none => .error [⟨["delegate"], .record "DelegateConfig"⟩]

def ofTable (fields : Table Value) : Except Validation.Report Settings :=
  let entries := fields.entries.map fun e => (Value.text e.1, e.2)
  reported "EnforceScriptConfig"
    ((both (fieldOr entries "backend" usual.backend readBackend)
        (both (fieldOr entries "engine" (usual.node, usual.noop) readEngine)
          (fieldOr entries "delegate" usual.command readDelegate))).map
      fun (backend, (node, noop), command) => ⟨backend, node, noop, command⟩)

def ofValue (v : Value) : Except Fault Settings := do
  let fields ← fieldsOf "enforcescript.config.EnforceScriptConfig" v
  (ofTable fields).mapError .invalid

/-- The settings that the document of a file gives; one that counts as nothing says nothing. -/
def ofBytes (sets : Value.SetOrder) (bytes : ByteArray) : Except Fault Settings :=
  match Document.loadBytes sets bytes with
  | .error fault => .error (.document fault)
  | .ok data => ofValue (if data.isTruthy then data else .map none [])

/-- The name of the variable that says where settings are. -/
def pathVariable : String := "ENFORCESCRIPT_CONFIG"

/-- Where settings are when nothing says so. -/
def usualPath : String := "enforcescript.yaml"

/-- Where settings are: as is said, as the environment says, or where they usually are. -/
def pathOf (h : Host) (path : Option String) : String :=
  match path with
  | some path => if path = "" then fromEnvironment else path
  | none => fromEnvironment
where
  /-- What the environment says. -/
  fromEnvironment : String := (h.environment.get? pathVariable).getD usualPath

/-- Settings can be read at a path: something is there. -/
def isThere (h : Host) (path : String) : Bool :=
  (Host.checkPath path).isOk && (h.files.stat h.cwd true path).isOk

/-- The settings at a path, or the usual ones where nothing is there. -/
def load (sets : Value.SetOrder) (path : Option String) : Action Host Settings := do
  let h ← get
  let path := pathOf h path
  if isThere h path then do
    .ofExcept (ofBytes sets (← Host.readBytes path))
  else return usual

end Settings

end Converge
