import Converge.Program.Expression
import Converge.Program.Lines
import Converge.Program.Paths
import Converge.Program.Pattern

/-!
# Searching lines

The program that prints the lines in which an expression is found, or tells of them in other ways.
-/

namespace Converge.Program

open Job

/-- What is searched for, and how lines are judged. -/
structure Search where
  expressions : List Expression
  whole : Bool
  words : Bool
  turned : Bool

namespace Search

def isWordAt (s : Array Char) (place : Nat) : Bool := (s[place]?).any Expression.isWord

/-- A place and an end that may be found. -/
def admits (q : Search) (s : Array Char) (a b : Nat) : Bool :=
  (!q.whole || (a = 0 && b = s.size)) &&
    (!q.words || (!(0 < a && isWordAt s (a - 1)) && !isWordAt s b))

/-- The first place of a line from a place on where something is found, and its end. -/
def find? (q : Search) (s : Array Char) (place : Nat) : Option (Nat × Nat) :=
  let found := q.expressions.filterMap fun e =>
    (e.find? s (q.admits s) (s.size + 2) place).map fun f => (f.1, f.2.place)
  found.foldl (fun best f => match best with
    | none => some f
    | some b => if f.1 < b.1 || (f.1 = b.1 && b.2 < f.2) then some f else some b) none

/-- A line is one of those that are asked for. -/
def selects (q : Search) (line : String) : Bool :=
  (q.find? (Text.textOf line).toList.toArray 0).isSome != q.turned

/-- The parts of a line that are found, from a place on, each behind the number of bytes before it. -/
def parts (q : Search) (s : Array Char) : (fuel : Nat) → (place : Nat) → List (Nat × String)
  | 0, _ => []
  | fuel + 1, place =>
    match q.find? s place with
    | none => []
    | some (a, b) =>
      let text (a b : Nat) : String := Text.octetsOf (String.ofList (s.extract a b).toList)
      if a = b then q.parts s fuel (b + 1)
      else ((text 0 a).length, text a b) :: q.parts s fuel b

end Search

/-- How what is found is told. -/
structure Telling where
  names : Bool
  numbers : Bool
  offsets : Bool
  onlyParts : Bool
  /-- How many lines before and behind a found one are told. -/
  before : Nat
  after : Nat
  most : Option Nat
  /-- What stands at the end of a line. -/
  ending : Char
  /-- What stands behind a name. -/
  nameEnding : Option Char
  /-- All is told as it is, whatever bytes it has. -/
  asText : Bool

/-- A text in which no byte stands that a text has not. -/
def isPlainText (text : String) : Bool :=
  match Text.decode ⟨(Text.ofOctets text).toArray⟩ with
  | .ok _ => true
  | .error _ => false

namespace Telling

def linesOf (t : Telling) (text : String) : List String :=
  if t.ending == '\n' then Program.linesOf text
  else
    let parts := (between t.ending text.toList).map String.ofList
    let parts := if parts.getLast? == some "" then parts.dropLast else parts
    parts.map fun line => line.push t.ending

def bare (t : Telling) (line : String) : String :=
  if line.endsWith (String.singleton t.ending) then String.ofList line.toList.dropLast else line

def found (t : Telling) (q : Search) (lines : List String) : List Nat :=
  let all := (lines.zipIdx.filter fun l => q.selects (t.bare l.1)).map (·.2)
  match t.most with
  | some n => all.take n
  | none => all

/-- What is told of an input, and whether something in it cannot be told. -/
def lines (t : Telling) (q : Search) (name : String) (lines : List String) : String × Bool :=
  let found := t.found q lines
  let isFound (i : Nat) := found.contains i
  let isNear (i : Nat) := found.any fun j => (i ≤ j && j ≤ i + t.before) || (j ≤ i && i ≤ j + t.after)
  let starts := (lines.foldl (fun (s : List Nat × Nat) line => (s.2 :: s.1, s.2 + line.length)) ([], 0)).1.reverse
  let front (i offset : Nat) (mark : String) : String :=
    (if t.names then name ++ (match t.nameEnding with | some c => String.singleton c | none => mark) else "") ++
      (if t.numbers then toString (i + 1) ++ mark else "") ++
      (if t.offsets then toString offset ++ mark else "")
  let told := (lines.zip starts).zipIdx.filter fun l => isNear l.2
  let clear := if t.asText then told else told.takeWhile fun l => isPlainText l.1.1
  let step (s : String × Option Nat) (l : (String × Nat) × Nat) : String × Option Nat :=
    let gap := match s.2 with
      | some j => if j + 1 < l.2 && (t.before ≠ 0 || t.after ≠ 0) then "--\n" else ""
      | none => ""
    let line := t.bare l.1.1
    let ending := String.singleton t.ending
    let body :=
      if t.onlyParts then
        if q.turned || !isFound l.2 then ""
        else
          let cs := (Text.textOf line).toList.toArray
          String.join ((q.parts cs (cs.size + 2) 0).map fun part =>
            front l.2 (l.1.2 + part.1) ":" ++ part.2 ++ ending)
      else front l.2 l.1.2 (if isFound l.2 then ":" else "-") ++ line ++ ending
    (s.1 ++ gap ++ body, some l.2)
  ((clear.foldl step ("", none)).1, clear.length < told.length)

end Telling

/-! ## Inputs -/

/-- Which files are searched below directories. -/
structure Choice where
  included : List String
  excluded : List String
  excludedDirectories : List String

namespace Choice

/-- A name as one of the patterns says it, or a path where a pattern has slashes. -/
def fitsAny (patterns : List String) (path : String) : Bool :=
  let parts := (between '/' path.toList).map String.ofList
  let tails := (List.range parts.length).map fun i => "/".intercalate (parts.drop i)
  patterns.any fun p => tails.any fun tail => Pattern.fits false p tail

/-- The file is one of those that are searched. -/
def admits (c : Choice) (path : String) : Bool :=
  (c.included.isEmpty || fitsAny c.included path) && !fitsAny c.excluded path

end Choice

/-- The files below a path that are chosen, in order, each with its path. -/
def filesBelow (fs : FileSystem) (c : Choice) : (fuel : Nat) → (path : String) → Place → List String
  | 0, _, _ => []
  | fuel + 1, path, place =>
    (fs.names place).flatMap fun name =>
      let inner := beneath path (Text.octetsOf name)
      match fs.get? (place ++ [name]) with
      | some (.directory _) =>
        if Choice.fitsAny c.excludedDirectories (Text.octetsOf name) then []
        else filesBelow fs c fuel inner (place ++ [name])
      | some (.file ..) => if c.admits (Text.octetsOf name) then [inner] else []
      | _ => []

/-! ## The program -/

/-- The options of the program that prints the lines in which an expression is found. -/
def grepForms : List OptionForm :=
  [.value 'e' "regexp", .value 'f' "file", .value 'm' "max-count", .value 'A' "after-context",
    .value 'B' "before-context", .value 'C' "context", .flag 'q' "quiet", .onlyLong 'q' "silent",
    .flag 's' "no-messages", .flag 'v' "invert-match", .flag 'i' "ignore-case", .flag 'y',
    .flag 'c' "count", .flag 'l' "files-with-matches", .flag 'L' "files-without-match",
    .flag 'n' "line-number", .flag 'b' "byte-offset", .flag 'o' "only-matching",
    .flag 'w' "word-regexp", .flag 'x' "line-regexp", .flag 'E' "extended-regexp",
    .flag 'F' "fixed-strings", .flag 'G' "basic-regexp", .flag 'P' "perl-regexp",
    .flag 'h' "no-filename", .flag 'H' "with-filename", .flag 'r' "recursive",
    .flag 'R' "dereference-recursive", .flag 'a' "text", .flag 'z' "null-data", .flag 'Z' "null",
    .flag 'I', .flag 'U' "binary", .flag 'T' "initial-tab", .value 'd' "directories", .value 'D' "devices",
    .onlyLong '!' "binary-files" .required, .onlyLong '+' "include" .required,
    .onlyLong '-' "exclude" .required, .onlyLong '/' "exclude-dir" .required,
    .onlyLong '~' "label" .required, .onlyLong '_' "line-buffered", .onlyLong '_' "no-ignore-case",
    .onlyLong '=' "color" .optional, .onlyLong '=' "colour" .optional]

/-- The short form of a number of lines around those that are found, brought into its long form. -/
def withContext (arguments : List String) : List String :=
  let front := arguments.takeWhile (· != "--")
  let takesMore (a : String) : Bool :=
    a.startsWith "-" && !a.startsWith "--" && (a.toList.getLast?).any fun c => "ABCmefdD".contains c
  (("" :: front).zip front).map (fun (before, a) => match a.toList with
    | '-' :: c :: cs =>
      if !takesMore before && c.isDigit && cs.all Char.isDigit then "--context=" ++ String.ofList (c :: cs)
      else a
    | _ => a) ++ arguments.drop front.length

/-- The lines that say how the program is started, with which it ends. -/
def grepUsage {α : Type} (status : Nat) : Job α := do
  let name := (← get).name
  sayError ("Usage: " ++ name ++ " [OPTION]... PATTERNS [FILE]...\nTry '" ++ name ++
    " --help' for more information.\n")
  throw status

def lineCount (given : List Given) (key : Char) : Job (Option Nat) := do
  match valueOf given key with
  | none => return none
  | some word =>
    if word != "" && word.all Char.isDigit then return word.toNat?
    else refuse (word ++ ": invalid context length argument") 2

/-- The expression that a pattern writes, with what is to be said about it. -/
def expressionFor (fixed : Bool) (m : Expression.Manner) (pattern : String) : Job Expression := do
  let text := Text.textOf pattern
  let cs := text.toList
  if fixed then return cs.foldr (fun c e => .both (Expression.ofChar m c) e) .empty
  else
    if Expression.hasBareClass m (cs.length + 1) cs then
      refuse "character class syntax is [[:space:]], not [:space:]" 2
    match Expression.read m text with
    | .error words => refuse words 2
    | .ok e =>
      if m.extended && !m.lettered then
        for sign in Expression.idleSigns m (cs.length + 1) true cs do
          complain ("warning: " ++ sign ++ " at start of expression")
      return e

/-- The program that prints the lines in which an expression is found. -/
def grep (extended plain : Bool) (arguments : List String) : Job Unit := do
  let arguments := withContext arguments
  let (given, words) ← match optionsOf grepForms true (arguments.length + 1) arguments with
    | .ok found => pure found
    | .error fault => do
      complain fault.message
      grepUsage 2
  let has (c : Char) := isGiven given c
  let context ← lineCount given 'C'
  let before ← lineCount given 'B'
  let after ← lineCount given 'A'
  let most : Option Nat ← match valueOf given 'm' with
    | none => pure none
    | some word => match takeWhole word.toList with
      | (some i, []) => pure (if i < 0 then none else some i.toNat)
      | _ => refuse "invalid max count" 2
  let kind := (valueOf given '!').getD "binary"
  if !(["binary", "text", "without-match"].contains kind) then refuse "unknown binary-files type" 2
  let directories := (valueOf given 'd').getD "read"
  if !(["read", "recurse", "skip"].contains directories) then
    complain ("invalid argument " ++ marked directories ++ " for " ++ marked "--directories")
    sayError ("Valid arguments are:\n" ++
      String.join (["read", "recurse", "skip"].map fun w => "  - " ++ marked w ++ "\n"))
    grepUsage 1
  let explicit := (given.filter fun g => g.key == 'e').filterMap (·.value)
  let fromFile ← match valueOf given 'f' with
    | none => pure []
    | some path => match ← source path with
      | .ok text => pure ((linesOf text).map chomped)
      | .error errno => refuse (path ++ ": " ++ errno.text) 2
  let noPattern := explicit.isEmpty && (valueOf given 'f').isNone
  if noPattern && words.isEmpty then grepUsage 2
  let patterns := if noPattern then words.take 1 else explicit ++ fromFile
  let paths := if noPattern then words.drop 1 else words
  let patterns := patterns.flatMap fun p => (between '\n' p.toList).map String.ofList
  let manner : Expression.Manner :=
    { extended := (extended || has 'E' || has 'P') && !has 'G', ignoresCase := has 'i' || has 'y'
      lettered := has 'P' }
  let fixed := (plain || has 'F') && !has 'E' && !has 'G'
  let q : Search := ⟨← patterns.mapM (expressionFor fixed manner), has 'x', has 'w', has 'v'⟩
  let whole := has 'r' || has 'R' || directories == "recurse"
  let choice : Choice :=
    let all (key : Char) := (given.filter fun g => g.key == key).filterMap (·.value)
    ⟨all '+', all '-', all '/'⟩
  let fs := (← get).files
  let mut inputs : List String := []
  for path in (if paths.isEmpty then [if whole then "." else "-"] else paths) do
    match ← look path with
    | .ok (place, .directory _) =>
      if whole then
        let inner := filesBelow fs choice 1000 path place
        inputs := inputs ++ (if paths.isEmpty then inner.map fun p => String.ofList (p.toList.drop 2) else inner)
      else if directories != "skip" then inputs := inputs ++ [path]
    | _ => if path = "-" || choice.admits path then inputs := inputs ++ [path]
  let named := !has 'h' && (has 'H' || 1 < paths.length || whole)
  let told : Telling :=
    { names := named, numbers := has 'n', offsets := has 'b', onlyParts := has 'o'
      before := (before <|> context).getD 0, after := (after <|> context).getD 0, most
      ending := if has 'z' then '\x00' else '\n', nameEnding := if has 'Z' then some '\x00' else none
      asText := has 'a' || kind == "text" }
  let mut any := false
  let mut failed := false
  for path in inputs do
    let name := if path = "-" then (valueOf given '~').getD "(standard input)" else path
    let before ← get
    match ← source path with
    | .error errno =>
      failed := true
      if !has 's' then complain (path ++ ": " ++ errno.text)
    | .ok text =>
      let isBinary := text.contains '\x00' && !has 'z' && !told.asText
      if !(isBinary && (has 'I' || kind == "without-match")) then
        let lines := told.linesOf text
        let found := told.found q lines
        if path = "-" && before.isSized && told.most == some found.length then
          if let some last := found.getLast? then
            modify fun w => { w with input := String.join (lines.drop (last + 1)) }
        let hit := !found.isEmpty
        any := any || (if has 'L' then !hit else hit)
        let nameEnd := if has 'Z' then "\x00" else "\n"
        let tell : Job Unit :=
          if has 'q' then (if hit then throw 0 else pure ())
          else if has 'l' then (if hit then say (name ++ nameEnd) else pure ())
          else if has 'L' then (if hit then pure () else say (name ++ nameEnd))
          else if has 'c' then
            sayLine ((if named then name ++ (if has 'Z' then "\x00" else ":") else "") ++ toString found.length)
          else do
            let (shown, isCut) := told.lines q name lines
            if !isBinary then say shown
            if (isBinary && hit) || isCut then complain (name ++ ": binary file matches")
        tell
  settle (if failed then 2 else if any then 0 else 1)

end Converge.Program
