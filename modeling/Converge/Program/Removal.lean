import Converge.Program.Paths

/-!
# Taking away

Programs that take files away, and directories with all that is below them. A directory goes only
after everything in it is gone.
-/

namespace Converge.Program

open Job

/-- How something is taken away. -/
structure Removing where
  /-- What is not there is no reason to complain. -/
  forced : Bool
  /-- Each step is asked about. -/
  asks : Bool
  whole : Bool
  empty : Bool
  verbose : Bool

/-- The user agrees, where that is asked about. -/
def Removing.agrees (r : Removing) (words path : String) : Job Bool := do
  if r.asks then isConfirmed (words ++ " " ++ quotedName path) else return true

/-- Something taken away, with all below it; whether nothing of it is left. -/
def Removing.remove (r : Removing) : (fuel : Nat) → (path : String) → Place → Entry → Job Bool
  | 0, _, _, _ => return false
  | fuel + 1, path, place, entry => do
    let take : Job Bool := do
      modify fun w => { w with files := w.files.erase place }
      if r.verbose then
        sayLine ((if isDirectory entry then "removed directory " else "removed ") ++ quotedName path)
      return true
    match entry with
    | .directory _ =>
      let names := (← get).files.names place
      if !names.isEmpty && !(← r.agrees "descend into directory" path) then return false
      let mut all := true
      for name in names do
        let inner := place ++ [name]
        if let some e := (← get).files.get? inner then
          if !(← r.remove fuel (beneath path (Text.octetsOf name)) inner e) then all := false
      if all && (← r.agrees "remove directory" path) then take else return false
    | entry => if ← r.agrees ("remove " ++ kindText entry) path then take else return false

def Removing.at (r : Removing) (path : String) : Job Unit := do
  let failed (errno : Errno) := faultAbout "cannot remove" (quotedName path) errno
  match ← look path false with
  | .error errno =>
    if r.forced && (errno = .noEntry || errno = .notDirectory) then pure () else failed errno
  | .ok (place, entry) =>
    if !isDirectory entry then let _ ← r.remove 1 path place entry
    else if r.whole then
      let last := lastPart path
      if place.isEmpty then
        complain "it is dangerous to operate recursively on '/'"
        fault "use --no-preserve-root to override this failsafe"
      else if last == "." || last == ".." then
        fault ("refusing to remove '.' or '..' directory: skipping " ++ quotedName path)
      else if Path.endsWithSlash path && (← leadsToLink (Path.withoutEndSlashes path)) then
        for name in (← get).files.names place do
          let inner := place ++ [name]
          if let some e := (← get).files.get? inner then
            let _ ← r.remove 1000 (beneath path (Text.octetsOf name)) inner e
        failed .notDirectory
      else let _ ← r.remove 1000 (if Path.parts path == [] then path else Path.withoutEndSlashes path) place entry
    else if r.empty then
      if (← get).files.hasChildren place then failed .notEmpty
      else let _ ← r.remove 1 path place entry
    else failed .isDirectory

/-- The program that takes files and directories away. -/
def rm (arguments : List String) : Job Unit := do
  let (given, paths) ← options
    [.flag 'f' "force", .flag 'i', .flag 'I', .onlyLong '?' "interactive" .optional,
      .onlyLong 'o' "one-file-system", .onlyLong 'n' "no-preserve-root",
      .onlyLong 'p' "preserve-root" .optional, .flag 'r' "recursive", .flag 'R', .flag 'd' "dir",
      .flag 'v' "verbose"] arguments
  let manner := given.foldl (fun manner g => match g.key, g.value with
    | 'f', _ => 'f'
    | 'i', _ | '?', none | '?', some "always" => 'i'
    | 'I', _ | '?', some "once" => 'I'
    | '?', some _ => 'n'
    | _, _ => manner) 'n'
  let whole := isGiven given 'r' || isGiven given 'R'
  let r : Removing := ⟨manner = 'f', manner = 'i', whole, isGiven given 'd', isGiven given 'v'⟩
  if paths.isEmpty then
    if r.forced then throw 0 else misuse "missing operand"
  if manner = 'I' && (whole || 3 < paths.length) then
    let count := toString paths.length ++ (if paths.length = 1 then " argument" else " arguments")
    if !(← isConfirmed ("remove " ++ count ++ (if whole then " recursively" else ""))) then throw 0
  for path in paths do
    r.at path

/-- The program that takes one file away. -/
def unlink (arguments : List String) : Job Unit := do
  let (_, paths) ← options [] arguments
  match paths with
  | [] => misuse "missing operand"
  | [path] =>
    match ← change fun files cwd => files.unlink cwd (Text.textOf path) with
    | .ok () => return ()
    | .error errno => faultAbout "cannot unlink" (quotedName path) errno
  | _ :: extra :: _ => misuse ("extra operand " ++ marked extra)

end Converge.Program
