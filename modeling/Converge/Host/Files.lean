import Converge.Host.Basic

/-!
# Files of the host

Operations on paths as actions. A path that has no bytes, or the byte 0 among them, ends every such
action, except that a question about it is answered with no. A question is also answered with no
when the way to the path does not exist; any other refusal of the system stops the action.
-/

namespace Converge.Host

/-- A path that the system takes: it has bytes, and the byte 0 is not among them. -/
def checkPath (path : String) : Except Fault Unit :=
  match Text.encodeRaw path with
  | .error fault => .error (.encoding fault)
  | .ok _ => if path.toList.contains '\x00' then .error .nul else .ok ()

/-- What the system says of a path. -/
def consult {α : Type} (path : String) (f : FileSystem → Place → Except Errno α) : Action Host α :=
  .of fun h =>
    match checkPath path, f h.files h.cwd with
    | .error fault, _ => (.error fault, h)
    | .ok (), .ok a => (.ok a, h)
    | .ok (), .error errno => (.error (.system ⟨errno, path⟩), h)

def change (path : String) (f : FileSystem → Place → Except Errno FileSystem) : Action Host Unit :=
  .of fun h =>
    match checkPath path, f h.files h.cwd with
    | .error fault, _ => (.error fault, h)
    | .ok (), .ok files => (.ok (), { h with files })
    | .ok (), .error errno => (.error (.system ⟨errno, path⟩), h)

/-- The answer to a question about what a path leads to. -/
def ask (path : String) (follow : Bool) (p : Entry → Bool) : Action Host Bool :=
  .of fun h =>
    match checkPath path, h.files.stat h.cwd follow path with
    | .error _, _ => (.ok false, h)
    | .ok (), .ok (_, entry) => (.ok (p entry), h)
    | .ok (), .error .noEntry | .ok (), .error .notDirectory | .ok (), .error .loop => (.ok false, h)
    | .ok (), .error errno => (.error (.system ⟨errno, path⟩), h)

/-- Something is at the path, links followed. -/
def exists? (path : String) : Action Host Bool := ask path true fun _ => true

def isDirectory (path : String) : Action Host Bool :=
  ask path true fun
    | .directory _ => true
    | _ => false

def isLink (path : String) : Action Host Bool :=
  ask path false fun
    | .link _ => true
    | _ => false

def readBytes (path : String) : Action Host ByteArray :=
  consult path fun files cwd => files.read cwd path

/-- The text of a file, with a line feed for each line end. -/
def readText (path : String) : Action Host String := do
  let bytes ← readBytes path
  match Text.decode bytes with
  | .ok s => return Text.unifyNewlines s
  | .error fault => throw (.decoding fault)

/-- A file with a text. It is there, and empty, before the bytes of the text are asked for. -/
def writeText (path text : String) : Action Host Unit := do
  match Text.encode text with
  | .ok bytes => change path fun files cwd => files.write cwd path bytes
  | .error fault => do
    change path fun files cwd => files.write cwd path ByteArray.empty
    throw (.encoding fault)

def makeDirectory (path : String) : Action Host Unit :=
  change path fun files cwd => files.makeDirectory cwd path

/-- An empty directory is taken away. -/
def removeDirectory (path : String) : Action Host Unit :=
  change path fun files cwd => files.removeDirectory cwd path

/-- A file or a link is taken away. -/
def unlink (path : String) : Action Host Unit :=
  change path fun files cwd => files.unlink cwd path

/-- The permission bits of what a path leads to. -/
def mode (path : String) : Action Host Nat :=
  consult path fun files cwd => (files.stat cwd true path).map fun (_, entry) => entry.mode

/-- Other permission bits for what a path leads to. -/
def changeMode (path : String) (mode : Nat) : Action Host Unit :=
  change path fun files cwd => files.changeMode cwd path mode

end Converge.Host
