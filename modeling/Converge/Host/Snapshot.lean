import Converge.Host.Basic
import Converge.Text.Blank

/-!
# Snapshots

A snapshot is a file system that holds what a run may need: the places on the way to the paths that
its documents mention. What differs between two snapshots is a list of changes.
-/

namespace Converge.Snapshot

def endsPath (c : Char) : Bool := Text.isBlank c || "'\",;[]\x7b\x7d".toList.contains c

/-- The characters of the absolute paths that a text mentions; `inside` says that a longer word is
being passed over. -/
def pathsFrom (inside : Bool) : List Char → List (List Char)
  | [] => []
  | c :: rest =>
    if endsPath c then pathsFrom false rest
    else if c = '/' && !inside then (c :: rest.takeWhile fun d => !endsPath d) :: pathsFrom true rest
    else pathsFrom true rest

def mentioned (text : String) : List String := (pathsFrom false text.toList).map String.ofList

/-- A place and the places around it, from the root on. -/
def wayTo (place : Place) : List Place := (List.range (place.length + 1)).map place.take

/-- A place that differs: something is put there, or nothing is left there. -/
inductive Change where
  | put (place : Place) (entry : Entry)
  | drop (place : Place) (entry : Entry)

/-- What differs from one snapshot to another: what vanished, the innermost first, and then what is
new or other, the outermost first. -/
def changes (before after : FileSystem) : List Change :=
  let dropped := before.entries.filter fun e => (after.get? e.1).isNone
  let put := after.entries.filter fun e => !(before.get? e.1).any e.2.same
  let depth (e f : Place × Entry) : Bool := e.1.length ≤ f.1.length
  ((dropped.mergeSort depth).reverse.map fun e => .drop e.1 e.2) ++
    (put.mergeSort depth).map fun e => .put e.1 e.2

end Converge.Snapshot
