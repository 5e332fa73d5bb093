import Converge.Host.FileSystem

/-!
# Trees of files

A directory with all that is below it. A tree is taken away, moved or copied as a whole.
-/

namespace Converge.FileSystem

def below (fs : FileSystem) (place : Place) : List (Place × Entry) :=
  fs.entries.filter fun e => place.isPrefixOf e.1 && place != e.1

/-- The order of names is that of their bytes. -/
def namesBefore (a b : String) : Bool := a.toUTF8.toList ≤ b.toUTF8.toList

/-- The names in a directory, in order. -/
def names (fs : FileSystem) (place : Place) : List String :=
  ((fs.below place).filterMap fun e => match e.1.drop place.length with
    | [name] => some name
    | _ => none).mergeSort namesBefore

/-- A place and all below it taken away. -/
def removeTree (fs : FileSystem) (place : Place) : FileSystem :=
  { fs with entries := fs.entries.filter fun e => !place.isPrefixOf e.1 }

/-- All that is at a place and below it put at another place as well. -/
def copyTree (fs : FileSystem) (source target : Place) : FileSystem :=
  let here := (fs.get? source).toList.map fun e => (source, e)
  (here ++ fs.below source).foldl (fun fs e => fs.insert (target ++ e.1.drop source.length) e.2) fs

/-- All that is at a place and below it put at another place instead. -/
def moveTree (fs : FileSystem) (source target : Place) : FileSystem :=
  let moved := ((fs.get? source).toList.map fun e => (source, e)) ++ fs.below source
  moved.foldl (fun fs e => fs.insert (target ++ e.1.drop source.length) e.2)
    ((fs.removeTree source).removeTree target)

end Converge.FileSystem
