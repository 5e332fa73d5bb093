import Converge.Host.Errno
import Converge.Host.Path

/-!
# File systems

A file system holds an entry at each of its places: a file, a directory or a link. A place is the
list of names on the way from the root without any link. A path is walked from the root or from the
working directory to the place where it leads, which may be vacant.

An operation changes the entry at one place only: `get?_insert` and `get?_erase` say so.
-/

namespace Converge

/-- What stands at a place; modes are permission bits. -/
inductive Entry where
  | file (content : ByteArray) (mode : Nat)
  | directory (mode : Nat)
  | link (target : String)
deriving Inhabited

namespace Entry

/-- The permission bits of an entry; those of a link let everything pass. -/
def mode : Entry → Nat
  | .file _ mode => mode
  | .directory mode => mode
  | .link _ => 0o777

/-- The entry with other permission bits. -/
def withMode (mode : Nat) : Entry → Entry
  | .file content _ => .file content mode
  | .directory _ => .directory mode
  | .link target => .link target

def same : Entry → Entry → Bool
  | .file content mode, .file content' mode' => content.toList == content'.toList && mode == mode'
  | .directory mode, .directory mode' => mode == mode'
  | .link target, .link target' => target == target'
  | _, _ => false

end Entry

/-- The names on the way from the root. -/
abbrev Place := List String

/-- Entries at places. -/
structure FileSystem where
  entries : List (Place × Entry)
  /-- The permission bits that new entries lack. -/
  mask : Nat := 0o022

namespace FileSystem

/-- The entry at a place. -/
def get? (fs : FileSystem) (place : Place) : Option Entry := fs.entries.lookup place

/-- The file system without an entry at a place. -/
def erase (fs : FileSystem) (place : Place) : FileSystem :=
  { fs with entries := fs.entries.filter fun e => !(e.1 == place) }

/-- The file system with an entry at a place. -/
def insert (fs : FileSystem) (place : Place) (entry : Entry) : FileSystem :=
  { fs with entries := (place, entry) :: (fs.erase place).entries }

/-- Only the place itself loses its entry. -/
@[simp] theorem get?_erase (fs : FileSystem) (place p : Place) :
    (fs.erase place).get? p = if p = place then none else fs.get? p := by
  obtain ⟨entries, mask⟩ := fs
  simp only [get?, erase]
  induction entries with
  | nil => simp
  | cons e rest ih =>
    obtain ⟨k, v⟩ := e
    by_cases hk : k = place
    · rw [List.filter_cons_of_neg (by simp [hk]), ih]
      by_cases hp : p = place
      · simp [hp]
      · have : (p == k) = false := by simp [hk, hp]
        simp [hp, List.lookup_cons, this]
    · rw [List.filter_cons_of_pos (by simp [hk]), List.lookup_cons, List.lookup_cons, ih]
      by_cases hp : p = place
      · have : (place == k) = false := by simp [Ne.symm hk]
        simp [hp, this]
      · simp [hp]

/-- Only the place itself gets the entry. -/
@[simp] theorem get?_insert (fs : FileSystem) (place p : Place) (entry : Entry) :
    (fs.insert place entry).get? p = if p = place then some entry else fs.get? p := by
  by_cases hp : p = place
  · subst hp
    simp [insert, get?]
  · have h : (p == place) = false := by simp [hp]
    have := get?_erase fs place p
    simp only [get?, hp, if_false] at this ⊢
    simpa [insert, List.lookup_cons, h] using this

/-! ## Walking a path -/

/-- Where a path leads: to an entry, or to a vacant place in a directory. -/
inductive Spot where
  | taken (place : Place) (entry : Entry)
  | vacant (place : Place)

/-- The longest name, in bytes. -/
def maxName : Nat := 255

/-- The longest path, in bytes, with the byte after its end. -/
def maxPath : Nat := 4096

def maxLinks : Nat := 40

/-- The parts of a path, and nothing or a point for the directory that it asks for. -/
def steps (path : String) : List String := Path.parts path ++ Path.ending path

/-- What a walk is for. -/
inductive Purpose where
  /-- What stands at the path, be it a link. -/
  | itself
  /-- Where the path leads. -/
  | target
  /-- A file at the place where the path leads, which no slash may follow. -/
  | file
deriving DecidableEq, Repr

/-- A walk from a directory along parts; `follow` goes on from a link, with the directory where it
begins anew and the parts that it then has before it. -/
def walkAlong (fs : FileSystem) (purpose : Purpose) (follow : Place → List String → Except Errno Spot) :
    (todo : List String) → (here : Place) → Except Errno Spot
  | [], here =>
    match fs.get? here with
    | none => .error .noEntry
    | some entry => .ok (.taken here entry)
  | name :: rest, here =>
    match fs.get? here with
    | none => .error .noEntry
    | some (.directory _) =>
      if name = "." ∨ name = "" then walkAlong fs purpose follow rest here
      else if name = ".." then walkAlong fs purpose follow rest here.dropLast
      else if purpose = .file ∧ rest = [""] then .error .isDirectory
      else if maxName < name.utf8ByteSize then .error .nameTooLong
      else
        match fs.get? (here ++ [name]) with
        | none => if rest.isEmpty then .ok (.vacant (here ++ [name])) else .error .noEntry
        | some (.link target) =>
          if rest.isEmpty && purpose = .itself then .ok (.taken (here ++ [name]) (.link target))
          else follow (if Path.isAbsolute target then [] else here) (steps target ++ rest)
        | some _ => walkAlong fs purpose follow rest (here ++ [name])
    | some _ => .error .notDirectory

/-- A walk that follows no more than so many links. -/
def walk (fs : FileSystem) (purpose : Purpose) : (links : Nat) → (here : Place) → (todo : List String) →
    Except Errno Spot
  | 0, here, todo => fs.walkAlong purpose (fun _ _ => .error .loop) todo here
  | links + 1, here, todo => fs.walkAlong purpose (walk fs purpose links) todo here

/-- Where a path leads from a working directory. -/
def resolve (fs : FileSystem) (cwd : Place) (purpose : Purpose) (path : String) :
    Except Errno Spot :=
  if path = "" then .error .noEntry
  else if maxPath ≤ path.utf8ByteSize then .error .nameTooLong
  else fs.walk purpose maxLinks (if Path.isAbsolute path then [] else cwd) (steps path)

/-! ## Operations -/

/-- The place and the entry of a path; `follow` says whether a link at its end is followed. -/
def stat (fs : FileSystem) (cwd : Place) (follow : Bool) (path : String) :
    Except Errno (Place × Entry) :=
  match fs.resolve cwd (if follow then .target else .itself) path with
  | .ok (.taken place entry) => .ok (place, entry)
  | .ok (.vacant _) => .error .noEntry
  | .error e => .error e

/-- The content of a file. -/
def read (fs : FileSystem) (cwd : Place) (path : String) : Except Errno ByteArray :=
  match fs.stat cwd true path with
  | .ok (_, .file content _) => .ok content
  | .ok (_, .directory _) => .error .isDirectory
  | .ok (_, .link _) => .error .loop
  | .error e => .error e

/-- Permission bits without those that new entries lack. -/
def unmasked (fs : FileSystem) (mode : Nat) : Nat := mode - (mode &&& fs.mask)

def fileMode (fs : FileSystem) : Nat := fs.unmasked 0o666

def directoryMode (fs : FileSystem) : Nat := fs.unmasked 0o777

/-- The bit of a mode that new directories take from the one around them. -/
def inheritedBit : Nat := 0o2000

/-- A file with a content; an existing file keeps its mode. -/
def write (fs : FileSystem) (cwd : Place) (path : String) (content : ByteArray) :
    Except Errno FileSystem :=
  match fs.resolve cwd .file path with
  | .ok (.taken place (.file _ mode)) => .ok (fs.insert place (.file content mode))
  | .ok (.taken _ (.directory _)) => .error .isDirectory
  | .ok (.taken _ (.link _)) => .error .loop
  | .ok (.vacant place) => .ok (fs.insert place (.file content fs.fileMode))
  | .error e => .error e

/-- What a directory takes from the one around it. -/
def inherited (fs : FileSystem) (place : Place) : Nat :=
  match fs.get? place.dropLast with
  | some (.directory mode) => mode &&& inheritedBit
  | _ => 0

def makeDirectory (fs : FileSystem) (cwd : Place) (path : String) : Except Errno FileSystem :=
  match fs.resolve cwd .itself (Path.withoutEndSlashes path) with
  | .ok (.taken ..) => .error .fileExists
  | .ok (.vacant place) =>
    .ok (fs.insert place (.directory (fs.directoryMode ||| fs.inherited place)))
  | .error e => .error e

/-- Something stands in a directory. -/
def hasChildren (fs : FileSystem) (place : Place) : Bool :=
  fs.entries.any fun e => place.isPrefixOf e.1 && place != e.1

/-- An empty directory is taken away; slashes at the end of the path do not lead through a link. -/
def removeDirectory (fs : FileSystem) (cwd : Place) (path : String) : Except Errno FileSystem :=
  let path := Path.withoutEndSlashes path
  match fs.stat cwd false path with
  | .ok (place, .directory _) =>
    match (Path.split path.toList).getLast? with
    | some ['.'] => .error .invalid
    | some ['.', '.'] => .error .notEmpty
    | _ =>
      if place = [] then .error .busy
      else if fs.hasChildren place then .error .notEmpty
      else .ok (fs.erase place)
  | .ok _ => .error .notDirectory
  | .error e => .error e

/-- A file or a link is taken away. -/
def unlink (fs : FileSystem) (cwd : Place) (path : String) : Except Errno FileSystem :=
  match fs.stat cwd false path with
  | .ok (_, .directory _) => .error .isDirectory
  | .ok (place, _) => .ok (fs.erase place)
  | .error e => .error e

/-- Other permission bits for what a path leads to. -/
def changeMode (fs : FileSystem) (cwd : Place) (path : String) (mode : Nat) :
    Except Errno FileSystem :=
  match fs.stat cwd true path with
  | .ok (place, entry) => .ok (fs.insert place (Entry.withMode mode entry))
  | .error e => .error e

def makeLink (fs : FileSystem) (cwd : Place) (path target : String) : Except Errno FileSystem :=
  match fs.resolve cwd .itself path with
  | .ok (.taken ..) => .error .fileExists
  | .ok (.vacant place) => .ok (fs.insert place (.link target))
  | .error e => .error e

end FileSystem

end Converge
