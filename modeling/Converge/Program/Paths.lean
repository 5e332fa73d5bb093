import Converge.Host.Tree
import Converge.Program.Naming
import Converge.Program.Options

/-!
# Paths of arguments

What programs ask about the paths among their arguments, and how they complain about them.
-/

namespace Converge.Program

open Job

/-- A complaint about a name, with the reason of the system behind it. -/
def faultAbout (words name : String) (errno : Errno) (status : Nat := 1) : Job Unit :=
  fault (words ++ " " ++ name ++ ": " ++ errno.text) status

/-- What stands behind the last slash of a path, slashes at its end apart. -/
def lastPart (path : String) : String :=
  let bare := Path.withoutEndSlashes path
  match (Path.split bare.toList).getLast? with
  | some (c :: cs) => String.ofList (c :: cs)
  | _ => bare

def beneath (path name : String) : String :=
  if Path.endsWithSlash path then path ++ name else path ++ "/" ++ name

def leadsToDirectory (path : String) : Job Bool := do
  match ← look path with
  | .ok (_, .directory _) => return true
  | _ => return false

def leadsToLink (path : String) : Job Bool := do
  match ← look path false with
  | .ok (_, .link _) => return true
  | _ => return false

def isDirectory : Entry → Bool
  | .directory _ => true
  | _ => false

def wayOf (path : String) : List String :=
  let parts := Path.parts path
  let start := if Path.isAbsolute path then "/" else ""
  (List.range parts.length).map fun i => start ++ "/".intercalate (parts.take (i + 1))

def placeText (place : Place) : String := Text.octetsOf ("/" ++ "/".intercalate place)

def pathBetween (here there : Place) : String :=
  let shared := ((here.zip there).takeWhile fun p => p.1 == p.2).length
  let parts := List.replicate (here.length - shared) ".." ++ there.drop shared
  if parts.isEmpty then "." else "/".intercalate parts

/-- Where a path leads without a link at its end being followed, be it vacant. -/
def spot (path : String) : Job (Except Errno FileSystem.Spot) := do
  let w ← get
  return w.files.resolve w.cwd .itself (Path.withoutEndSlashes (Text.textOf path))

def kindText : Entry → String
  | .file content _ => if content.isEmpty then "regular empty file" else "regular file"
  | .directory _ => "directory"
  | .link _ => "symbolic link"

/-- A question answered by the next line of the input; what does not begin like a yes is a no. -/
def isConfirmed (question : String) : Job Bool := do
  sayError ((← get).name ++ ": " ++ question ++ "? ")
  let w ← get
  let line := w.input.toList.takeWhile (· ≠ '\n')
  set { w with input := String.ofList (w.input.toList.drop (line.length + 1)) }
  return line.head? == some 'y' || line.head? == some 'Y'

end Converge.Program
