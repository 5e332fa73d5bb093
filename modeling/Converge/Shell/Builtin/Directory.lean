import Converge.Shell.Builtin.Basic

/-!
# The working directory and the mask of a shell

The directory is known by the path along which it was entered, so that links stay in it. The mask
holds the permission bits that new files lack.
-/

namespace Converge.Shell.Builtin

open Act

/-- A path without parts that lead nowhere or back. -/
def plainPath (path : String) : String :=
  let step (done : List String) (part : String) : List String :=
    if part == ".." then done.drop 1 else part :: done
  "/" ++ "/".intercalate ((Path.parts path).foldl step []).reverse

/-- The path begins with the root or with parts that only lead here or back. -/
def isPlaced (path : String) : Bool :=
  path.startsWith "/" || ["", ".", ".."].contains (String.ofList (path.toList.takeWhile (· ≠ '/')))

/-- Another working directory; whether there is such. -/
def enter (physical : Bool) (path : String) : Act Bool := do
  let s ← get
  let logical := plainPath (if path.startsWith "/" then path else s.path ++ "/" ++ path)
  match s.system.files.stat s.cwd true (Text.textOf (if physical then path else logical)) with
  | .ok (place, .directory _) =>
    let path := if physical then Program.placeText place else logical
    assign "OLDPWD" s.path true
    assign "PWD" path true
    modify fun s => { s with cwd := place, path, status := 0 }
    return true
  | _ => return false

/-- Another working directory, which may be found along a path; where it is not the one that the word
says by itself, it is told. -/
def cd (words : List String) : Act Unit := do
  let (given, words) ← options "LP" words
  let target ← match words with
    | [] => read? "HOME"
    | "-" :: _ => read? "OLDPWD"
    | word :: _ => pure (some word)
  let target := match target with
    | none | some "" => "."
    | some target => target
  let s ← get
  let isDirectory (path : String) : Bool := match s.system.files.stat s.cwd true (Text.textOf path) with
    | .ok (_, .directory _) => true
    | _ => false
  let along ← read? "CDPATH"
  let fronts := match along with
    | some along => if isPlaced target then [] else Program.between ':' along.toList
    | none => []
  let found := fronts.find? fun front => isDirectory (Program.beneath (String.ofList front) target)
  let path := match found with
    | some front => if front.isEmpty then target else Program.beneath (String.ofList front) target
    | none => target
  if !(← enter (given.getLast? == some 'P') path) then fail ("can't cd to " ++ target)
  else if words.head? == some "-" || (found.any fun front => !front.isEmpty) then
    say ((← get).path ++ "\n")

/-- The working directory told. -/
def pwd (words : List String) : Act Unit := do
  let (given, _) ← options "LP" words
  let s ← get
  say ((if given.getLast? == some 'P' then Program.placeText s.cwd else s.path) ++ "\n")
  settle 0

/-- The permission bits that new files lack, set or told. -/
def umask (words : List String) : Act Unit := do
  let (given, words) ← options "S" words
  let mask := (← get).system.files.mask
  match words.headD "", words with
  | "", _ :: _ => pure ()
  | "", [] =>
    if given.isEmpty then
      let digits := Nat.toDigits 8 mask
      say (String.ofList (List.replicate (4 - digits.length) '0' ++ digits) ++ "\n")
    else
      let bits := 0o777 - mask
      let letters (shift : Nat) : String := String.ofList
        ((if (bits >>> shift) &&& 4 ≠ 0 then ['r'] else []) ++
          (if (bits >>> shift) &&& 2 ≠ 0 then ['w'] else []) ++
          (if (bits >>> shift) &&& 1 ≠ 0 then ['x'] else []))
      say ("u=" ++ letters 6 ++ ",g=" ++ letters 3 ++ ",o=" ++ letters 0 ++ "\n")
  | word, _ =>
    if (word.toList.head?).any Char.isDigit then
      if word.all fun c => (Text.digitOf? 8 c).isSome then
        let bits := Text.ofDigits 8 (word.toList.filterMap (Text.digitOf? 8)) % 512
        modify fun s => { s with system := s.system.withMask bits }
      else fail ("Illegal number: " ++ word)
    else
      match Program.Mode.changed? mask word false (0o777 - mask) with
      | some mode => modify fun s => { s with system := s.system.withMask (0o777 - mode % 512) }
      | none => fail ("Illegal mode: " ++ word)
  settle 0

end Converge.Shell.Builtin
