/-!
# Paths

A path is a text; its parts stand between slashes. A normal path has no empty part and no part that
is a single point.
-/

namespace Converge.Path

/-- The texts between slashes. -/
def split : List Char → List (List Char)
  | [] => [[]]
  | c :: rest =>
    match split rest with
    | [] => [[c]]
    | part :: parts => if c = '/' then [] :: part :: parts else (c :: part) :: parts

def parts (path : String) : List String :=
  ((split path.toList).filter fun p => p ≠ [] ∧ p ≠ ['.']).map String.ofList

/-- The path begins at the root. -/
def isAbsolute (path : String) : Bool := path.toList.head? == some '/'

/-- What stands last in a path that asks for a directory: nothing after a slash, or a point. -/
def ending (path : String) : List String :=
  match (split path.toList).reverse with
  | [] :: _ :: _ => [""]
  | ['.'] :: _ :: _ => ["."]
  | _ => []

def endsWithSlash (path : String) : Bool := path.toList.getLast? == some '/'

def withoutEndSlashes (path : String) : String :=
  let kept := (path.toList.reverse.dropWhile (· == '/')).reverse
  if kept.isEmpty && endsWithSlash path then "/" else String.ofList kept

/-- What stands before the first part; two slashes are kept apart from one. -/
def root (path : String) : String :=
  match path.toList with
  | '/' :: '/' :: '/' :: _ => "/"
  | '/' :: '/' :: _ => "//"
  | '/' :: _ => "/"
  | _ => ""

def normal (path : String) : String :=
  let text := root path ++ "/".intercalate (parts path)
  if text = "" then "." else text

/-- The end of the last part of a path from its last point on; none when the point stands first or
last in it. -/
def suffix (path : String) : String :=
  match (parts path).getLast? with
  | none => ""
  | some name =>
    let reversed := name.toList.reverse
    let ending := reversed.takeWhile (· ≠ '.')
    match reversed.dropWhile (· ≠ '.') with
    | '.' :: _ :: _ => if ending.isEmpty then "" else String.ofList ('.' :: ending.reverse)
    | _ => ""

end Converge.Path
