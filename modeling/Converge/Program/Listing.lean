import Converge.Program.Format
import Converge.Program.Mode
import Converge.Program.Paths

/-!
# Looking at files

Programs that tell what stands in directories, where links lead and what is known of files.
-/

namespace Converge.Program

open Job

/-- The program that tells the working directory. -/
def pwd (arguments : List String) : Job Unit := do
  let (_, words) ← options [.flag 'L' "logical", .flag 'P' "physical"] arguments
  if !words.isEmpty then complain "ignoring non-option arguments"
  sayLine (placeText (← get).cwd)

/-- How a name is written in a list. -/
inductive NameStyle where
  | bare
  | escaped
  | quoted
  | readable
deriving DecidableEq

/-- A name with what could be misread in it marked by backslashes. -/
def escapedName (mark : Option Char) (s : String) : String :=
  String.join (s.toList.map fun c =>
    if isHidden c then hiddenForm c
    else if c == '\\' then "\\\\"
    else if mark == some c then "\\" ++ String.singleton c
    else if mark == none && c == ' ' then "\\ "
    else String.singleton c)

def NameStyle.write (style : NameStyle) (s : String) : String :=
  match style with
  | .bare => s
  | .escaped => escapedName none s
  | .quoted => "\"" ++ escapedName (some '"') s ++ "\""
  | .readable => plainName s

/-- How names are listed. -/
structure Listing where
  hidden : Bool
  dots : Bool
  signs : Bool
  slashes : Bool
  reversed : Bool
  follows : Bool
  whole : Bool
  style : NameStyle
  bySize : Bool
  byEnding : Bool
  /-- All names stand in one row. -/
  inRow : Bool

def Listing.shown (l : Listing) (name : String) (entry : Option Entry) : String :=
  let name := l.style.write name
  match entry with
  | some (.directory _) => if l.signs || l.slashes then name ++ "/" else name
  | some (.link _) => if l.signs then name ++ "@" else name
  | some (.file _ mode) => if l.signs && mode &&& 0o111 ≠ 0 then name ++ "*" else name
  | none => name

def sizeOf : Option Entry → Nat
  | some (.file content _) => content.size
  | some (.directory _) => 4096
  | some (.link target) => target.utf8ByteSize
  | none => 0

/-- Names with their entries, in the order of a list. -/
def Listing.sorted {α : Type} (l : Listing) (size : α → Nat) (names : List (String × α)) :
    List (String × α) :=
  let byName := names.mergeSort fun a b => !(b.1 < a.1)
  let ordered :=
    if l.bySize then byName.mergeSort fun a b => size b.2 ≤ size a.2
    else if l.byEnding then byName.mergeSort fun a b => !(Path.suffix b.1 < Path.suffix a.1)
    else byName
  if l.reversed then ordered.reverse else ordered

def Listing.names (l : Listing) (fs : FileSystem) (place : Place) : List (String × Option Entry) :=
  let found := (fs.names place).filter fun n => l.hidden || !n.startsWith "."
  let entry (n : String) : Option Entry :=
    if l.follows then (fs.stat place true n).toOption.map (·.2) else fs.get? (place ++ [n])
  let directory : Option Entry := some (.directory 0)
  let dots := if l.dots then [(".", directory), ("..", directory)] else []
  l.sorted sizeOf (dots ++ found.map fun n => (Text.octetsOf n, entry n))

/-- Names told, each on a line or all in one row. -/
def Listing.tell (l : Listing) (names : List String) : Job Unit := do
  if l.inRow then
    if !names.isEmpty then sayLine (", ".intercalate names)
  else
    for name in names do
      sayLine name

/-- The content of a directory, and of those below it where that is asked for. -/
def Listing.directory (l : Listing) : (fuel : Nat) → (heading : Option String) → (path : String) →
    Place → Job Unit
  | 0, _, _, _ => return ()
  | fuel + 1, heading, path, place => do
    if let some heading := heading then sayLine heading
    let fs := (← get).files
    l.tell ((l.names fs place).map fun (name, entry) => l.shown name entry)
    if l.whole then
      for (name, entry) in l.names fs place do
        match entry with
        | some (.directory _) =>
          if name != "." && name != ".." then
            let inner := beneath path name
            l.directory fuel (some ("\n" ++ inner ++ ":")) inner (place ++ [Text.textOf name])
        | _ => pure ()

def ls (arguments : List String) : Job Unit := do
  let (given, paths) ← options
    ([.flag 'a' "all", .flag 'A' "almost-all", .flag 'd' "directory", .flag 'F', .flag 'p', .flag 'r' "reverse",
      .flag 'R' "recursive", .onlyLong 'F' "classify" .optional, .onlyLong '=' "color" .optional,
      .flag 'Q' "quote-name", .flag 'b' "escape", .flag 'N' "literal", .flag 'L' "dereference",
      .onlyLong '+' "group-directories-first", .onlyLong '%' "full-time", .onlyLong '~' "sort" .required,
      .onlyLong '^' "quoting-style" .required] ++
      "1lhtSUCmxgGnoisqBcfHkuvXZ".toList.map fun c => .flag c) arguments 2
  let style := given.foldl (fun style g => match g.key, g.value with
    | 'Q', _ | '^', some "c" => NameStyle.quoted
    | 'b', _ | '^', some "escape" => .escaped
    | 'N', _ | '^', some "literal" => .bare
    | '^', some "shell" => .readable
    | _, _ => style) .bare
  let l : Listing :=
    { hidden := isGiven given 'a' || isGiven given 'A', dots := isGiven given 'a'
      signs := isGiven given 'F', slashes := isGiven given 'p', reversed := isGiven given 'r'
      follows := isGiven given 'L', whole := isGiven given 'R', style
      bySize := isGiven given 'S' || valueOf given '~' == some "size"
      byEnding := isGiven given 'X' || valueOf given '~' == some "extension", inRow := isGiven given 'm' }
  let asEntries := isGiven given 'd'
  let paths := if paths.isEmpty then ["."] else paths
  let mut plain : List (String × Option Entry) := []
  let mut directories : List (String × Place) := []
  for path in paths do
    let followed := (← look path)
    let found ← match followed with
      | .ok found => pure (Except.ok found)
      | .error errno =>
        if l.follows then pure (Except.error errno)
        else match ← look path false with
          | .ok found => pure (Except.ok found)
          | .error _ => pure (Except.error errno)
    match found with
    | .error errno => faultAbout "cannot access" (quotedName path) errno 2
    | .ok (place, entry) =>
      if isDirectory entry && !asEntries && (!l.signs || l.follows || !(← leadsToLink path)) then
        directories := (path, place) :: directories
      else
        let bare ← look path false
        let itself := if l.follows then some entry else bare.toOption.map (·.2)
        plain := (path, itself) :: plain
  l.tell ((l.sorted sizeOf plain.reverse).map fun (path, entry) => l.shown path entry)
  let headed := 1 < paths.length || l.whole
  let mut first := plain.isEmpty
  for (path, place) in l.sorted (fun _ => 4096) directories.reverse do
    let gap := if first then "" else "\n"
    l.directory 1000 (if headed then some (gap ++ l.style.write path ++ ":") else none) path place
    first := false

/-! ## Where paths lead -/

/-- The place behind a path, whose parts need not be there. -/
def canonical (fs : FileSystem) : (fuel : Nat) → Place → List String → Place
  | 0, here, _ => here
  | _, here, [] => here
  | fuel + 1, here, part :: rest =>
    if part == ".." then canonical fs fuel here.dropLast rest
    else
      let there := here ++ [part]
      match fs.get? there with
      | some (.link target) =>
        let start := if Path.isAbsolute target then [] else here
        canonical fs fuel start (Path.parts target ++ rest)
      | _ => canonical fs fuel there rest

/-- The way to the place behind a path that a program asks for. -/
inductive Leading where
  /-- The last part of the path may be missing. -/
  | usual
  | existing
  | missing
deriving DecidableEq

/-- The way that options ask for. -/
def leadingOf (given : List Given) : Leading :=
  given.foldl (fun way g => match g.key with
    | 'e' => .existing
    | 'm' => .missing
    | _ => way) .usual

def Leading.place (way : Leading) (path : String) : Job (Except Errno Place) := do
  let w ← get
  let text := Text.textOf path
  match way, w.files.resolve w.cwd .target text with
  | .missing, _ =>
    let start := if Path.isAbsolute text then [] else w.cwd
    return if text == "" then .error .noEntry else .ok (canonical w.files 2000 start (Path.parts text))
  | _, .ok (.taken place _) | .usual, .ok (.vacant place) => return .ok place
  | .existing, .ok (.vacant _) => return .error .noEntry
  | _, .error errno => return .error errno

/-- The program that tells where a link leads. -/
def readlink (arguments : List String) : Job Unit := do
  let (given, paths) ← options
    [.flag 'f' "canonicalize", .flag 'e' "canonicalize-existing", .flag 'm' "canonicalize-missing",
      .flag 'n' "no-newline", .flag 'q' "quiet", .flag 's' "silent", .flag 'v' "verbose", .flag 'z' "zero"]
    arguments
  if paths.isEmpty then misuse "missing operand"
  let finish :=
    if isGiven given 'n' && paths.length = 1 then "" else if isGiven given 'z' then "\x00" else "\n"
  if isGiven given 'n' && 1 < paths.length then complain "ignoring --no-newline with multiple arguments"
  for path in paths do
    let led : Except Errno String ←
      if isGiven given 'f' || isGiven given 'e' || isGiven given 'm' then do
        pure ((← (leadingOf given).place path).map placeText)
      else do
        pure (match ← look path false with
          | .ok (_, .link target) => .ok (Text.octetsOf target)
          | .ok _ => .error .invalid
          | .error errno => .error errno)
    match led with
    | .ok text => say (text ++ finish)
    | .error errno =>
      settle 1
      if isGiven given 'v' then complain (headName path ++ ": " ++ errno.text)

/-- The program that tells the place to which a path leads. -/
def realpath (arguments : List String) : Job Unit := do
  let (given, paths) ← options
    [.flag 'e' "canonicalize-existing", .flag 'm' "canonicalize-missing", .flag 's' "strip",
      .onlyLong 's' "no-symlinks", .flag 'q' "quiet", .flag 'L' "logical", .flag 'P' "physical",
      .flag 'z' "zero", .onlyLong 't' "relative-to" .required, .onlyLong 'b' "relative-base" .required]
    arguments
  if paths.isEmpty then misuse "missing operand"
  let way := leadingOf given
  let led (path : String) : Job (Except Errno Place) := do
    if isGiven given 's' then
      let w ← get
      let text := Text.textOf path
      let step (done : Place) (part : String) := if part == ".." then done.dropLast else done ++ [part]
      return .ok ((Path.parts text).foldl step (if Path.isAbsolute text then [] else w.cwd))
    else way.place path
  let optional (key : Char) : Job (Option Place) := do
    match valueOf given key with
    | none => return none
    | some path =>
      match ← led path with
      | .ok place => return some place
      | .error errno => refuse (headName path ++ ": " ++ errno.text)
  let start ← optional 't'
  let base ← optional 'b'
  for path in paths do
    match ← led path with
    | .error errno =>
      if isGiven given 'q' then settle 1 else fault (headName path ++ ": " ++ errno.text)
    | .ok place =>
      let isInside := base.all fun b => b.isPrefixOf place
      let shown := match start, base with
        | some s, _ => if isInside then Text.octetsOf (pathBetween s place) else placeText place
        | none, some b => if isInside then Text.octetsOf (pathBetween b place) else placeText place
        | none, none => placeText place
      say (shown ++ if isGiven given 'z' then "\x00" else "\n")

/-! ## Facts -/

/-- A fact about a file that a letter asks for; the second says that it is a number. -/
def factOf (path : String) (entry : Entry) (letter : Char) : String × Bool :=
  let kind := match entry with
    | .directory _ => "d"
    | .link _ => "l"
    | .file .. => "-"
  match letter with
  | 'a' => (String.ofList (Nat.toDigits 8 entry.mode), true)
  | 'A' => (kind ++ Mode.letters entry.mode, false)
  | 'n' => (path, false)
  | 'N' => match entry with
    | .link target => (quotedName path ++ " -> " ++ quotedName (Text.octetsOf target), false)
    | _ => (quotedName path, false)
  | 'F' => (kindText entry, false)
  | 's' => (toString (sizeOf (some entry)), true)
  | 'U' | 'G' => ("root", false)
  | 'u' | 'g' => ("0", true)
  | 'h' => ("1", true)
  | _ => ("?", false)

/-- A format for facts about a file, with the facts in it. -/
def statText (path : String) (entry : Entry) : (fuel : Nat) → List Char → String
  | 0, _ => ""
  | fuel + 1, '%' :: '%' :: rest => "%" ++ statText path entry fuel rest
  | fuel + 1, '%' :: rest =>
    let flags := rest.takeWhile fun c => "#-+ 0'I".contains c
    let (width, rest) := takeExtent (rest.drop flags.length)
    let (precision, rest) := match rest with
      | '.' :: behind =>
        let (precision, behind) := takeExtent behind
        (some (precision.getD 0), behind)
      | rest => (none, rest)
    match rest with
    | [] => "%"
    | c :: rest =>
      let (fact, isNumber) := factOf path entry c
      let l : Layout :=
        ⟨flags.contains '-', false, false, false, flags.contains '0', width.getD 0, precision⟩
      (if isNumber then l.number l.zeros "" fact else l.text fact) ++ statText path entry fuel rest
  | fuel + 1, c :: rest => String.singleton c ++ statText path entry fuel rest
  | _, [] => ""

/-- The program that tells facts about files. -/
def stat (arguments : List String) : Job Unit := do
  let (given, paths) ← options
    [.value 'c' "format", .flag 'L' "dereference", .flag 't' "terse", .flag 'f' "file-system",
      .onlyLong 'p' "printf" .required] arguments
  if paths.isEmpty then misuse "missing operand"
  for path in paths do
    match ← look path (isGiven given 'L') with
    | .error errno => faultAbout "cannot statx" (quotedName path) errno
    | .ok (_, entry) =>
      let write (format : String) := statText path entry (format.length + 1) format.toList
      match valueOf given 'p' with
      | some format => say (write (unescapeArgument .system format).1)
      | none => sayLine (write ((valueOf given 'c').getD "%n"))

/-! ## Sizes -/

def sizeFrom (sign : Option Char) (amount before : Nat) : Nat :=
  match sign with
  | some '+' => before + amount
  | some '-' => before - amount
  | some '<' => min before amount
  | some '>' => max before amount
  | some '/' => before / amount * amount
  | some '%' => (before + amount - 1) / amount * amount
  | _ => amount

/-- The program that cuts files off or fills them up to a size. -/
def truncate (arguments : List String) : Job Unit := do
  let (given, paths) ← options
    [.value 's' "size", .flag 'c' "no-create", .value 'r' "reference", .flag 'o' "io-blocks"] arguments
  let base : Option Nat ← match valueOf given 'r' with
    | none => pure none
    | some path => match ← look path with
      | .ok (_, entry) => pure (some (sizeOf (some entry)))
      | .error errno => refuse ("cannot stat " ++ quotedName path ++ ": " ++ errno.text)
  let (sign, amount) : Option Char × Nat ← match valueOf given 's', base with
    | none, none => misuse ("you must specify either " ++ marked "--size" ++ " or " ++ marked "--reference")
    | none, some size => pure (none, size)
    | some word, base =>
      let cs := word.toList.dropWhile isNumeralBlank
      let (sign, cs) := match cs with
        | c :: rest => if "+-<>/%".contains c then (some c, rest) else (none, cs)
        | [] => (none, [])
      match takePlainDigits 10 cs with
      | ([], _) => refuse ("Invalid number: " ++ marked word)
      | (ds, rest) => match factorOf? (String.ofList rest) with
        | none => refuse ("Invalid number: " ++ marked word)
        | some factor =>
          let amount := Text.ofDigits 10 ds * factor
          if amount = 0 && (sign == some '/' || sign == some '%') then refuse "division by zero"
          if base.isSome && sign.isNone then
            misuse ("you must specify a relative " ++ marked "--size" ++ " with " ++ marked "--reference")
          pure (sign, amount)
  if paths.isEmpty then misuse "missing file operand"
  for path in paths do
    let found ← look path
    if isGiven given 'c' && !found.isOk then pure ()
    else
      let before := ((← content path).toOption).getD ""
      let size := sizeFrom sign amount (base.getD before.length)
      let after := before.toList.take size ++ List.replicate (size - before.length) '\x00'
      match ← store path (String.ofList after) with
      | .ok () => pure ()
      | .error errno => fault ("cannot open " ++ quotedName path ++ " for writing: " ++ errno.text)

end Converge.Program
