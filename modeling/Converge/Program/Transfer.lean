import Converge.Program.Mode
import Converge.Program.Paths

/-!
# Moving, copying and linking

Programs that bring files from one path to another. What is named last is a directory to put things
in, or the path that a single thing gets; pairs of a source and its target follow from that.
-/

namespace Converge.Program

open Job

/-- The name that something gets in a directory; the parent of a directory stands for the directory
itself. -/
def nameInside (path : String) : String :=
  let last := lastPart path
  if last == ".." then "." else last

/-- What is brought where: pairs of a source and its target. `directory` is a target that is named
by an option, and `plain` says that the target is no directory to put something in. -/
def pairs (directory : Option String) (plain : Bool) (paths : List String) (allowsOne : Bool := false) :
    Job (List (String × String)) := do
  let into (target : String) (sources : List String) :=
    sources.map fun s => (s, beneath target (nameInside s))
  let refusal (target : String) (errno : Errno) : Job (List (String × String)) :=
    refuse ("target " ++ quotedName target ++ ": " ++ errno.text)
  let inDirectory (target : String) (sources : List String) : Job (List (String × String)) := do
    match ← look target with
    | .ok (_, .directory _) => return into target sources
    | .ok _ => refusal target .notDirectory
    | .error errno => refusal target errno
  match directory, paths with
  | _, [] => misuse "missing file operand"
  | some target, sources => inDirectory target sources
  | none, [source] =>
    if allowsOne then return into "." [source]
    else misuse ("missing destination file operand after " ++ quotedName source)
  | none, [source, target] =>
    if plain then return [(source, target)]
    else if ← leadsToDirectory target then return into target [source]
    else return [(source, target)]
  | none, _ :: _ :: extra :: _ =>
    if plain then misuse ("extra operand " ++ quotedName extra)
    else inDirectory (paths.getLastD "") paths.dropLast

/-- What is done about something that stands at a target already. -/
inductive Meeting where
  | replace
  /-- The user is asked. -/
  | ask
  /-- What is there stays. -/
  | keep
  /-- What is there stays unless it is older; no file of a run is. -/
  | keepNewer
deriving DecidableEq

/-- What options say about something that stands at a target, the last of them counting. -/
def meetingOf (given : List Given) : Meeting :=
  let chosen := given.foldl (fun m g => match g.key, g.value with
    | 'f', _ => Meeting.replace
    | 'i', _ => .ask
    | 'n', _ => .keep
    | '^', some "none" | '^', some "none-fail" => .keep
    | _, _ => m) Meeting.replace
  let isUpdate (g : Given) : Bool := g.key = 'u' || (g.key = '^' && (g.value.getD "older") == "older")
  if chosen = .replace && given.any isUpdate then .keepNewer else chosen

/-- The options about something that stands at a target. -/
def meetingForms : List OptionForm :=
  [.flag 'f' "force", .flag 'i' "interactive", .flag 'n' "no-clobber", .flag 'u',
    .onlyLong '^' "update" .optional, .flag 'b', .onlyLong 'b' "backup" .optional, .value 'S' "suffix",
    .onlyLong '/' "strip-trailing-slashes", .flag 'v' "verbose", .value 't' "target-directory",
    .flag 'T' "no-target-directory"]

/-- What stands at a target may be replaced. A user who declines makes the program fail. -/
def Meeting.allows (m : Meeting) (target : String) : Job Bool := do
  match m with
  | .replace => return true
  | .keep | .keepNewer => return false
  | .ask =>
    let agreed ← isConfirmed ("overwrite " ++ quotedName target)
    if !agreed then settle 1
    return agreed

/-- What ends the name of something that was put aside for another. -/
def asideEnding (given : List Given) : Option String :=
  if isGiven given 'b' || isGiven given 'S' then some ((valueOf given 'S').getD "~") else none

/-- What stands at a place, put aside under a longer name. -/
def putAside (ending : String) (place : Place) : Job Unit := do
  let aside := place.dropLast ++ [(place.getLastD "") ++ Text.textOf ending]
  modify fun w => { w with files := w.files.moveTree place aside }

/-! ## Moving -/

/-- How things are moved. -/
structure Moving where
  meeting : Meeting
  aside : Option String
  verbose : Bool

/-- Something brought from one path to another. -/
def Moving.move (m : Moving) (source target : String) : Job Unit := do
  let names := quotedName source ++ " to " ++ quotedName target
  let failed (errno : Errno) := fault ("cannot move " ++ names ++ ": " ++ errno.text)
  let intoItself :=
    fault ("cannot move " ++ quotedName source ++ " to a subdirectory of itself, " ++ quotedName target)
  match ← look source false with
  | .error errno => faultAbout "cannot stat" (quotedName source) errno
  | .ok (old, entry) =>
    let isTree := isDirectory entry
    let bring (place : Place) : Job Unit := do
      if lastPart source == "." || lastPart source == ".." then failed .busy
      else
        modify fun w => { w with files := w.files.moveTree old place }
        if m.verbose then sayLine ("renamed " ++ quotedName source ++ " -> " ++ quotedName target)
    match ← look target false with
    | .error .noEntry =>
      match ← spot target with
      | .ok (.vacant place) | .ok (.taken place _) =>
        if lastPart source == "." || lastPart source == ".." then failed .busy
        else if isTree && old.isPrefixOf place then intoItself
        else if Path.endsWithSlash target && !isTree then failed .notDirectory
        else bring place
      | .error errno => failed errno
    | .error errno => faultAbout "cannot stat" (quotedName target) errno
    | .ok (place, there) =>
      let led := (← look source).toOption.map (·.1)
      if place = old || (led = some place && old ≠ place) then
        fault (quotedName source ++ " and " ++ quotedName target ++ " are the same file")
      else if !(← m.meeting.allows target) then return ()
      else if isDirectory there && !isTree then
        fault ("cannot overwrite directory " ++ quotedName target ++ " with non-directory")
      else if isTree && !isDirectory there && m.aside.isNone then
        fault ("cannot overwrite non-directory " ++ quotedName target ++ " with directory " ++
          quotedName source)
      else if isTree && old.isPrefixOf place then intoItself
      else
        match m.aside with
        | some ending =>
          putAside ending place
          bring place
        | none =>
          if isTree && (← get).files.hasChildren place then
            faultAbout "cannot overwrite" (quotedName target) .notEmpty
          else bring place

/-- The program that moves files. -/
def mv (arguments : List String) : Job Unit := do
  let (given, paths) ← options meetingForms arguments
  let m : Moving := ⟨meetingOf given, asideEnding given, isGiven given 'v'⟩
  for (source, target) in ← pairs (valueOf given 't') (isGiven given 'T') paths do
    m.move source target

/-! ## Copying -/

/-- What a copy of a file is made of. -/
inductive Making where
  | content
  | hardLink
  | softLink
deriving DecidableEq

/-- How copies are made. -/
structure Copying where
  whole : Bool
  /-- Links are copied and not what they lead to. -/
  links : Bool
  keepsMode : Bool
  meeting : Meeting
  aside : Option String
  making : Making
  verbose : Bool

def Copying.tell (c : Copying) (source target : String) : Job Unit := do
  if c.verbose then sayLine (quotedName source ++ " -> " ++ quotedName target)

/-- The content of a file with permission bits put where a path leads. -/
def Copying.copyFile (c : Copying) (source target : String) (bytes : ByteArray) (mode : Nat) :
    Job Unit := do
  let isNew := !(← look target).isOk
  if isNew && (← leadsToLink target) then
    fault ("not writing through dangling symlink " ++ quotedName target)
  else
    c.tell source target
    match ← store target (Text.octets bytes.toList) with
    | .ok () =>
      if isNew || c.keepsMode then
        let files := (← get).files
        let mode := if c.keepsMode then mode else files.unmasked (mode &&& 0o777)
        let _ ← change fun files cwd => files.changeMode cwd (Text.textOf target) mode
    | .error errno =>
      faultAbout "cannot create regular file" (quotedName target)
        (if errno = .isDirectory && isNew then .notDirectory else errno)

/-- Something copied from one path to another, with all below it. -/
def Copying.copy (c : Copying) : (fuel : Nat) → (outer : Bool) → (source target : String) → Job Unit
  | 0, _, _, _ => return ()
  | fuel + 1, outer, source, target => do
    match ← look source (!c.links) with
    | .error errno => faultAbout "cannot stat" (quotedName source) errno
    | .ok (old, entry) =>
      if isDirectory entry && !c.whole then
        fault ("-r not specified; omitting directory " ++ quotedName source)
      else
        let looked ← match entry with
          | .link _ => look target false
          | _ => look target (c.making = .content)
        let there : Option (Place × Entry) := looked.toOption
        let led : Option Place := ((← look target).toOption).map (·.1)
        let refusal : Option Errno := match looked with
          | .error .noEntry | .ok _ => none
          | .error errno => some errno
        if let some errno := refusal then
          faultAbout "cannot stat" (quotedName target) errno
        else if !isDirectory entry && (led = some old || there.any (·.1 = old)) then
          fault (quotedName source ++ " and " ++ quotedName target ++ " are the same file")
        else if !isDirectory entry && there.isSome && !(← c.meeting.allows target) then return ()
        else if !isDirectory entry && there.any (isDirectory ·.2) then
          fault ("cannot overwrite directory " ++ quotedName target ++ " with non-directory")
        else if isDirectory entry && there.any (!isDirectory ·.2) then
          fault ("cannot overwrite non-directory " ++ quotedName target ++ " with directory " ++
            quotedName source)
        else
          let mut vacated := false
          if let (some ending, some (place, .file ..)) := (c.aside, there) then
            putAside ending place
            vacated := true
          let isFree := there.isNone || vacated
          let putLink (led : String) : Job Unit := do
            match ← spot target with
            | .ok (.vacant place) | .ok (.taken place _) =>
              c.tell source target
              modify fun w => { w with files := w.files.insert place (.link led) }
            | .error errno => faultAbout "cannot create symbolic link" (quotedName target) errno
          match entry, c.making with
          | .link led, _ => putLink led
          | .file bytes mode, .content => c.copyFile source target bytes mode
          | .file .., .softLink =>
            if !isFree then
              fault ("cannot create symbolic link " ++ quotedName target ++ " to " ++ quotedName source ++
                ": " ++ Errno.fileExists.text)
            else putLink (Text.textOf source)
          | .file bytes mode, .hardLink =>
            if !isFree then
              fault ("cannot create hard link " ++ quotedName target ++ " to " ++ quotedName source ++
                ": " ++ Errno.fileExists.text)
            else
              let whole : Copying := { c with keepsMode := true }
              whole.copyFile source target bytes mode
          | .directory mode, _ =>
            match ← spot target with
            | .error errno => faultAbout "cannot create directory" (quotedName target) errno
            | .ok found =>
              let place := match found with
                | .taken place _ | .vacant place => place
              let inItself := outer && old.isPrefixOf place
              if there.isNone then
                c.tell source target
                let files := (← get).files
                let mode := if c.keepsMode then mode else files.unmasked mode
                modify fun w => { w with files := w.files.insert place (.directory mode) }
              for name in (← get).files.names old do
                if !(inItself && (old ++ [name]).isPrefixOf place) then
                  let name := Text.octetsOf name
                  c.copy fuel false (beneath source name) (beneath target name)
              if inItself then
                fault ("cannot copy a directory, " ++ quotedName source ++ ", into itself, " ++
                  quotedName target)

/-- The directories on the way to a path made below another where they are not there. -/
def copyWay (target : String) : List String → Job Unit
  | [] => return ()
  | here :: rest => do
    let _ ← change fun files cwd => files.makeDirectory cwd (Text.textOf (beneath target here))
    copyWay target rest

/-- The program that copies files. -/
def cp (arguments : List String) : Job Unit := do
  let (given, paths) ← options
    (meetingForms ++ [.flag 'r' "recursive", .flag 'R', .flag 'a' "archive", .flag 'p',
      .onlyLong '=' "preserve" .optional, .onlyLong '-' "no-preserve" .required, .flag 'P' "no-dereference",
      .flag 'L' "dereference", .flag 'd', .flag 'l' "link", .flag 's' "symbolic-link", .flag 'H', .flag 'x',
      .onlyLong '+' "parents", .onlyLong '!' "remove-destination", .onlyLong '@' "reflink" .optional])
    arguments
  let archive := isGiven given 'a'
  let whole := archive || isGiven given 'r' || isGiven given 'R'
  let links := archive || isGiven given 'P' || isGiven given 'd' || (whole && !isGiven given 'L')
  let making : Making :=
    if isGiven given 's' then .softLink else if isGiven given 'l' then .hardLink else .content
  let c : Copying :=
    { whole, links, keepsMode := archive || isGiven given 'p' || isGiven given '='
      meeting := match meetingOf given with
        | .replace => .replace
        | m => m
      aside := asideEnding given, making, verbose := isGiven given 'v' }
  if isGiven given '+' then
    let (target, sources) := match valueOf given 't' with
      | some target => (target, paths)
      | none => (paths.getLastD "", paths.dropLast)
    if sources.isEmpty then misuse "missing destination file operand"
    if !(← leadsToDirectory target) then
      misuse "with --parents, the destination must be a directory"
    for source in sources do
      copyWay target (wayOf source).dropLast
      c.copy 1000 true source (beneath target (Path.withoutEndSlashes source))
  else
    for (source, target) in ← pairs (valueOf given 't') (isGiven given 'T') paths do
      c.copy 1000 true source target

/-- The program that copies files and gives them permission bits, or makes directories. -/
def install (arguments : List String) : Job Unit := do
  let (given, paths) ← options
    [.flag 'd' "directory", .flag 'D', .value 'm' "mode", .flag 'v' "verbose", .flag 'c', .flag 'C' "compare",
      .flag 'p' "preserve-timestamps", .value 'o' "owner", .value 'g' "group", .flag 's' "strip",
      .value 't' "target-directory", .flag 'T' "no-target-directory"] arguments
  let word := (valueOf given 'm').getD "755"
  match Mode.changed? 0 word false 0 with
  | none => refuse ("invalid mode " ++ marked word)
  | some mode =>
    let makeAll (path : String) (here : List String) : Job Unit := do
      for p in here do
        if !(← leadsToDirectory p) then
          match ← change fun files cwd => files.makeDirectory cwd (Text.textOf p) with
          | .ok () => if isGiven given 'v' then sayLine ((← get).name ++ ": creating directory " ++ quotedName p)
          | .error errno => faultAbout "cannot create directory" (marked path) errno
    if isGiven given 'd' then
      if paths.isEmpty then misuse "missing file operand"
      for path in paths do
        makeAll path (wayOf path)
        let _ ← change fun files cwd => files.changeMode cwd (Text.textOf path) mode
    else
      if isGiven given 'D' then
        for path in (paths.getLast?).toList do
          makeAll path (wayOf path).dropLast
      for (source, target) in ← pairs (valueOf given 't') (isGiven given 'T') paths do
        match ← look source with
        | .error errno => faultAbout "cannot stat" (quotedName source) errno
        | .ok (_, .file bytes _) =>
          if isGiven given 'v' then sayLine (quotedName source ++ " -> " ++ quotedName target)
          match ← store target (Text.octets bytes.toList) with
          | .ok () =>
            let _ ← change fun files cwd => files.changeMode cwd (Text.textOf target) mode
          | .error errno => faultAbout "cannot create regular file" (quotedName target) errno
        | .ok _ => fault ("omitting directory " ++ quotedName source)

/-! ## Linking -/

/-- The program that makes links. -/
def ln (arguments : List String) : Job Unit := do
  let (given, paths) ← options
    [.flag 's' "symbolic", .flag 'f' "force", .flag 'n' "no-dereference", .flag 'v' "verbose",
      .flag 'i' "interactive", .flag 'T' "no-target-directory", .value 't' "target-directory",
      .flag 'r' "relative", .flag 'b', .onlyLong 'b' "backup" .optional, .value 'S' "suffix",
      .flag 'L' "logical", .flag 'P' "physical", .flag 'd' "directory", .flag 'F'] arguments
  let symbolic := isGiven given 's'
  let kind := if symbolic then "symbolic link" else "hard link"
  if isGiven given 'r' && !symbolic then refuse "cannot do --relative without --symbolic"
  let isLinkTarget ← match paths with
    | [_, target] => if isGiven given 'n' then leadsToLink target else pure false
    | _ => pure false
  for (source, target) in ← pairs (valueOf given 't') (isGiven given 'T' || isLinkTarget) paths true do
    let put (shown : String) (entry : Entry) : Job Unit := do
      let tell : Job Unit := do
        if isGiven given 'v' then
          sayLine (quotedName target ++ (if symbolic then " -> " else " => ") ++ quotedName shown)
      let failed (errno : Errno) := faultAbout ("failed to create " ++ kind) (quotedName target) errno
      let found ← spot target
      match found with
      | .error errno => failed errno
      | .ok (.vacant place) =>
        if Path.endsWithSlash target then failed .noEntry
        else
          modify fun w => { w with files := w.files.insert place entry }
          tell
      | .ok (.taken place there) =>
        let replaced := isGiven given 'f' || (asideEnding given).isSome
        if replaced && isDirectory there then fault (quotedName target ++ ": cannot overwrite directory")
        else if isGiven given 'i' && !replaced then
          if ← isConfirmed ("replace " ++ quotedName target) then
            modify fun w => { w with files := w.files.insert place entry }
            tell
          else settle 1
        else if !replaced then failed .fileExists
        else
          if let some ending := asideEnding given then putAside ending place
          modify fun w => { w with files := w.files.insert place entry }
          tell
    if symbolic then
      if source = "" then
        fault ("failed to create symbolic link " ++ quotedName target ++ " -> '': " ++ Errno.noEntry.text)
      else if isGiven given 'r' then
        let w ← get
        let here := match ← spot target with
          | .ok (.vacant place) | .ok (.taken place _) => place.dropLast
          | .error _ => w.cwd
        let there := match w.files.resolve w.cwd .target (Text.textOf source) with
          | .ok (.taken place _) | .ok (.vacant place) => place
          | .error _ => w.cwd ++ Path.parts (Text.textOf source)
        let led := pathBetween here there
        put (Text.octetsOf led) (.link led)
      else put source (.link (Text.textOf source))
    else
      match ← look source (isGiven given 'L') with
      | .error errno => faultAbout "failed to access" (quotedName source) errno
      | .ok (old, entry) =>
        if isDirectory entry then fault (headName source ++ ": hard link not allowed for directory")
        else
          let led := ((← look target false).toOption).map (·.1)
          if led = some old && isGiven given 'f' then
            fault (quotedName source ++ " and " ++ quotedName target ++ " are the same file")
          else put source entry

end Converge.Program
