import Converge.Program.Mode
import Converge.Program.Paths

/-!
# Changing permission bits

The program that changes the permission bits of files, and of all below directories where that is
asked for.
-/

namespace Converge.Program

open Job

/-- How permission bits are changed. -/
structure ModeChange where
  /-- The mode that another one becomes. -/
  change : (directory : Bool) → Nat → Option Nat
  whole : Bool
  quiet : Bool
  /-- Each file is told, or only those that change. -/
  tells : Bool
  tellsChanges : Bool

def modeText (mode : Nat) : String :=
  let ds := Nat.toDigits 8 mode
  String.ofList (List.replicate (4 - ds.length) '0' ++ ds) ++ " (" ++ Mode.letters mode ++ ")"

/-- Permission bits changed at a place and, where it is asked for, at all below it. -/
def ModeChange.below (c : ModeChange) : (fuel : Nat) → (path : String) → Place → Entry → Job Unit
  | 0, _, _, _ => return ()
  | fuel + 1, path, place, entry => do
    let before := entry.mode
    if let some mode := c.change (isDirectory entry) before then
      modify fun w => { w with files := w.files.insert place (Entry.withMode mode entry) }
      if mode = before then
        if c.tells then sayLine ("mode of " ++ quotedName path ++ " retained as " ++ modeText mode)
      else if c.tells || c.tellsChanges then
        sayLine ("mode of " ++ quotedName path ++ " changed from " ++ modeText before ++ " to " ++
          modeText mode)
    if c.whole && isDirectory entry then
      for name in (← get).files.names place do
        let inner := place ++ [name]
        match (← get).files.get? inner with
        | none | some (.link _) => pure ()
        | some e => c.below fuel (beneath path (Text.octetsOf name)) inner e

def ModeChange.at (c : ModeChange) (path : String) : Job Unit := do
  match ← look path with
  | .ok (place, entry) => c.below (if c.whole then 1000 else 1) path place entry
  | .error errno =>
    if c.quiet then settle 1
    else if ← leadsToLink path then fault ("cannot operate on dangling symlink " ++ quotedName path)
    else faultAbout "cannot access" (quotedName path) errno

/-- A word that is a mode although a dash begins it. -/
def isModeWord (word : String) : Bool :=
  match word.toList with
  | '-' :: c :: _ => "rwxXstugo0123456789".contains c
  | _ => false

/-- The program that changes permission bits. -/
def chmod (arguments : List String) : Job Unit := do
  let (modes, others) := (arguments.filter isModeWord, arguments.filter fun a => !isModeWord a)
  let (given, words) ← options
    [.flag 'R' "recursive", .flag 'v' "verbose", .flag 'c' "changes", .flag 'f' "silent",
      .onlyLong 'f' "quiet", .onlyLong 'r' "reference" .required] others
  let changing (change : Bool → Nat → Option Nat) : ModeChange :=
    { change, whole := isGiven given 'R', quiet := isGiven given 'f', tells := isGiven given 'v'
      tellsChanges := isGiven given 'c' }
  match valueOf given 'r', modes ++ words with
  | some reference, paths =>
    match ← look reference with
    | .error errno =>
      refuse ("failed to get attributes of " ++ quotedName reference ++ ": " ++ errno.text)
    | .ok (_, entry) =>
      if paths.isEmpty then misuse "missing operand"
      for path in paths do
        (changing fun _ _ => some entry.mode).at path
  | none, [] => misuse "missing operand"
  | none, [mode] => misuse ("missing operand after " ++ marked mode)
  | none, mode :: paths =>
    let mask := (← get).files.mask
    if (Mode.changed? mask mode false 0).isNone then misuse ("invalid mode: " ++ marked mode)
    for path in paths do
      (changing (Mode.changed? mask mode)).at path

end Converge.Program
