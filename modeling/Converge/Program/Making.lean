import Converge.Program.Mode
import Converge.Program.Paths

/-!
# Making files and directories

Programs that make empty files and directories, and that take empty directories away. Each complains
about what it cannot do and goes on with the next of its arguments.
-/

namespace Converge.Program

open Job

/-! ## Times -/

def timeWords : List String :=
  ["now", "today", "yesterday", "tomorrow", "ago", "next", "last", "this", "noon", "midnight", "am", "pm",
    "utc", "gmt", "ut", "wet", "cet", "est", "edt", "cst", "cdt", "mst", "mdt", "pst", "pdt", "dst", "sec",
    "second", "min", "minute", "hour", "day", "week", "fortnight", "month", "year", "first", "third",
    "fourth", "fifth", "sixth", "seventh", "eighth", "ninth", "tenth", "eleventh", "twelfth", "january",
    "february", "march", "april", "may", "june", "july", "august", "september", "october", "november",
    "december", "jan", "feb", "mar", "apr", "jun", "jul", "aug", "sep", "sept", "oct", "nov", "dec",
    "sunday", "monday", "tuesday", "wednesday", "thursday", "friday", "saturday", "sun", "mon", "tue",
    "tues", "wed", "wednes", "thu", "thur", "thurs", "fri", "sat"]

def letterRows (s : String) : List String :=
  let step (rows : List (List Char)) (c : Char) : List (List Char) :=
    match rows with
    | row :: rest => if c.isAlpha then (c :: row) :: rest else [] :: row :: rest
    | [] => [[]]
  ((s.toList.foldl step [[]]).filter (· ≠ [])).map fun row => String.ofList row.reverse

/-- The text says a time in words and numbers. -/
def isTimeText (s : String) : Bool :=
  (letterRows s.toLower).all fun w =>
    w.length = 1 || timeWords.contains w || (w.endsWith "s" && timeWords.contains (String.ofList w.toList.dropLast))

/-- The text is a time in digits: month, day, hour and minute, perhaps with a year in front and
seconds behind a point. -/
def isStamp (s : String) : Bool :=
  let digits := s.toList.takeWhile (· ≠ '.')
  let behind := s.toList.drop digits.length
  let pair (cs : List Char) (i : Nat) : Nat := Text.ofDigits 10 ((cs.drop i |>.take 2).filterMap (Text.digitOf? 10))
  let tail := digits.drop (digits.length - 8)
  let isDigits (cs : List Char) : Bool := cs.all Char.isDigit
  isDigits digits && [8, 10, 12].contains digits.length && 1 ≤ pair tail 0 && pair tail 0 ≤ 12 &&
    1 ≤ pair tail 2 && pair tail 2 ≤ 31 && pair tail 4 < 24 && pair tail 6 < 60 &&
    match behind with
    | [] => true
    | _ :: seconds => seconds.length = 2 && isDigits seconds && pair seconds 0 ≤ 60

/-- The program that makes files that are not there. -/
def touch (arguments : List String) : Job Unit := do
  let (given, paths) ← options
    [.flag 'a', .flag 'c' "no-create", .value 'd' "date", .flag 'f', .flag 'h' "no-dereference", .flag 'm',
      .value 'r' "reference", .value 't', .onlyLong 'T' "time" .required] arguments
  for g in given do
    match g.key, g.value with
    | 'd', some s => if !isTimeText s then refuse ("invalid date format " ++ marked s)
    | 't', some s => if !isStamp s then refuse ("invalid date format " ++ marked s)
    | _, _ => pure ()
  if let some reference := valueOf given 'r' then
    if let .error errno := ← look reference then
      refuse ("failed to get attributes of " ++ quotedName reference ++ ": " ++ errno.text)
  if paths.isEmpty then misuse "missing file operand"
  for path in paths do
    let found ← look path (!isGiven given 'h')
    match found with
    | .ok _ => pure ()
    | .error errno =>
      if errno = .noEntry && (isGiven given 'c' || isGiven given 'h') then
        if !isGiven given 'c' then faultAbout "setting times of" (quotedName path) errno
      else if Path.endsWithSlash path && (errno = .noEntry || errno = .notDirectory) then
        faultAbout "setting times of" (quotedName path) errno
      else
        match ← store path "" with
        | .ok () => pure ()
        | .error errno => faultAbout "cannot touch" (quotedName path) errno

/-! ## Directories -/

/-- A directory made; it gets a mode where one is asked for. -/
def makeDirectory (mode : Option Nat) (path : String) : Job (Except Errno Unit) :=
  change fun files cwd => do
    let path := Text.textOf path
    let files ← files.makeDirectory cwd path
    match mode with
    | some mode => files.changeMode cwd path mode
    | none => return files

def tellMade (verbose : Bool) (path : String) : Job Unit := do
  if verbose then sayLine ((← get).name ++ ": created directory " ++ quotedName path)

/-- The directories on the way to a path made where they are not there. -/
def makeWay (mode : Option Nat) (verbose : Bool) (path : String) : List String → Job Unit
  | [] => return ()
  | here :: rest => do
    if ← leadsToDirectory here then makeWay mode verbose path rest
    else
      let shown := if rest.isEmpty then path else here
      match ← makeDirectory (if rest.isEmpty then mode else none) here with
      | .ok () =>
        tellMade verbose shown
        makeWay mode verbose path rest
      | .error errno =>
        let errno := if errno = .fileExists && !rest.isEmpty then .notDirectory else errno
        faultAbout "cannot create directory" (marked shown) errno

/-- The program that makes directories. -/
def mkdir (arguments : List String) : Job Unit := do
  let (given, paths) ← options
    [.value 'm' "mode", .flag 'p' "parents", .flag 'v' "verbose", .flag 'Z'] arguments
  if paths.isEmpty then misuse "missing operand"
  let mode : Option Nat ← match valueOf given 'm' with
    | none => pure none
    | some word => match Mode.changed? 0 word true 0o777 with
      | some mode => pure (some mode)
      | none => refuse ("invalid mode " ++ marked word)
  let verbose := isGiven given 'v'
  for path in paths do
    if isGiven given 'p' && path ≠ "" then makeWay mode verbose path (wayOf path)
    else match ← makeDirectory mode path with
      | .ok () => tellMade verbose path
      | .error errno => faultAbout "cannot create directory" (marked path) errno

/-- A directory taken away and, where it is asked for, those on the way to it. -/
def removeWay (verbose quiet : Bool) (first : Bool) : List String → Job Unit
  | [] => return ()
  | path :: rest => do
    if verbose then sayLine ((← get).name ++ ": removing directory, " ++ quotedName path)
    match ← change fun files cwd => files.removeDirectory cwd (Text.textOf path) with
    | .ok () => removeWay verbose quiet false rest
    | .error errno =>
      let led := errno = .notDirectory && Path.endsWithSlash path && (← leadsToDirectory path)
      if quiet && errno = .notEmpty then return ()
      else if led then fault ("failed to remove " ++ quotedName path ++ ": Symbolic link not followed")
      else
        let words := if first then "failed to remove" else "failed to remove directory"
        faultAbout words (quotedName path) errno

/-- The program that takes empty directories away. -/
def rmdir (arguments : List String) : Job Unit := do
  let (given, paths) ← options
    [.onlyLong 'i' "ignore-fail-on-non-empty", .flag 'p' "parents", .flag 'v' "verbose"] arguments
  if paths.isEmpty then misuse "missing operand"
  for path in paths do
    let way := if isGiven given 'p' then path :: ((wayOf path).reverse.drop 1) else [path]
    removeWay (isGiven given 'v') (isGiven given 'i') true way

end Converge.Program
