import Converge.Digest
import Converge.ResourceType.Change
import Converge.ResourceType.Rules

/-!
# Files

A file resource is brought about step by step: first whether anything is at its path and of which
kind, then the content, then the permission bits. A step after one that was refused is still tried,
except that nothing follows a directory in the place of a file.
-/

namespace Converge.ResourceType.File

/-- Permission bits as four octal digits. -/
def octal (mode : Nat) : String :=
  let digits := (Nat.toDigits 8 mode)
  String.ofList (List.replicate (4 - digits.length) '0' ++ digits)

/-- Nothing is to be at the path. -/
def remove (path : String) (noop : Bool) : Action Host (List Event) := do
  let link ← Host.isLink path
  let present ← if link then pure true else Host.exists? path
  if present then do
    let directory ← Host.isDirectory path
    let directory ← if directory then do pure !(← Host.isLink path) else pure false
    let action := if directory then Host.removeDirectory path else Host.unlink path
    change "ensure" "absent" "removed" action noop
  else return []

/-- A directory is to be at the path. -/
def create (path : String) (noop : Bool) : Action Host (List Event) := do
  if ← Host.isDirectory path then return []
  else change "ensure" "directory" "created" (Host.makeDirectory path) noop

/-- A value written to a file; one that counts as nothing is the empty text. -/
def writeValue (path : String) (content : Value) : Action Host Unit :=
  match content with
  | .text s => Host.writeText path s
  | v => if v.isTruthy then throw (.misuse (.dataFromValue v.typeName)) else Host.writeText path ""

/-- The event of a change of the content, with the digest of the new one. -/
def replaceContent (path content : String) (noop : Bool) : Action Host (List Event) := do
  let bytes ← .ofExcept ((Text.encode content).mapError .encoding)
  let digest := "\x7bsha256\x7d" ++ Digest.sha256 bytes
  change "content" digest ("content changed to '" ++ digest ++ "'") (Host.writeText path content) noop

/-- The content of a file that exists. -/
def adjust (path : String) (content : Value) (noop : Bool) : Action Host (List Event) := do
  let current ← Host.readText path
  match content with
  | .text s => if current = s then return [] else replaceContent path s noop
  | v => throw (.misuse (.noOperation v.fullTypeName "encode"))

/-- A file is to be at the path, unless something else suffices; `none` when a directory stands in
its place. -/
def place (path : String) (r : Resource) (noop : Bool) : Action Host (Option (List Event)) := do
  if ← Host.isDirectory path then
    if ensureWord? r = some "file" then return none else return some []
  else if !(← Host.exists? path) then
    return some (← change "ensure" "file" "created" (writeValue path ((contentOf r).getD .null)) noop)
  else match contentOf r with
    | none => return some []
    | some content => return some (← adjust path content noop)

/-- The permission bits of what is at the path. -/
def setMode (path : String) (r : Resource) (noop : Bool) : Action Host (List Event) := do
  match ← .ofExcept (modeOf r) with
  | none => return []
  | some mode =>
    if ← Host.exists? path then do
      let current ← Host.mode path
      if current = mode then return []
      else
        change "mode" (octal mode)
          ("mode changed '" ++ octal current ++ "' to '" ++ octal mode ++ "'")
          (Host.changeMode path mode) noop
    else return []

/-- A file resource brought about. -/
def apply (r : Resource) (noop : Bool) : Action Host (List Event) := do
  let path := Path.normal r.ref.name
  match ensureWord? r with
  | some "absent" => remove path noop
  | some "directory" => do
    let events ← create path noop
    return events ++ (← setMode path r noop)
  | _ => do
    match ← place path r noop with
    | none => return [.refused "ensure" "file" Errno.isDirectory.text]
    | some events => return events ++ (← setMode path r noop)

end Converge.ResourceType.File
