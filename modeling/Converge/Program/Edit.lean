import Converge.Program.Edit.Progress
import Converge.Program.Paths

/-!
# Editing lines

The program that edits its inputs line by line, as a script of commands says, and prints them or puts
them back into their files.
-/

namespace Converge.Program.Edit

open Job

/-- A piece of a script, and the file from which it was read. -/
structure Piece where
  file : Option String
  text : String

/-- The place in a script where so many characters are before: which piece it is, and what of the
piece is before it. -/
def placeIn : List Piece → (count : Nat) → (expressions : Nat) → Option (Piece × Nat × String)
  | [], _, _ => none
  | p :: rest, count, expressions =>
    let expressions := if p.file.isNone then expressions + 1 else expressions
    if count ≤ p.text.length || rest.isEmpty then
      some (p, expressions, String.ofList (p.text.toList.take count))
    else placeIn rest (count - p.text.length - 1) expressions

/-- The complaint about a script. -/
def Fault.message (pieces : List Piece) (whole : Nat) (f : Fault) : String :=
  match f.left.bind fun left => placeIn pieces (whole - left) 0 with
  | none => "-e expression #1, char 0: " ++ f.words
  | some (p, expressions, front) =>
    match p.file with
    | none =>
      "-e expression #" ++ toString expressions ++ ", char " ++ toString front.length ++ ": " ++ f.words
    | some path =>
      "file " ++ path ++ " line " ++ toString ((front.toList.filter (· == '\n')).length + 1) ++ ": " ++ f.words

/-- How bytes are read as texts and written again: as they are, where they write no text. -/
structure Coding where
  isText : Bool

def Coding.read (c : Coding) (s : String) : String := if c.isText then Text.textOf s else s

def Coding.write (c : Coding) (s : String) : String := if c.isText then Text.octetsOf s else s

def writesText (s : String) : Bool :=
  match Text.decode ⟨(Text.ofOctets s).toArray⟩ with
  | .ok _ => true
  | .error _ => false

def editForms : List OptionForm :=
  [.flag 'n' "quiet", .onlyLong 'n' "silent", .value 'e' "expression", .value 'f' "file",
    .flag 'E' "regexp-extended", .flag 'r', .flag 's' "separate", .flag 'u' "unbuffered",
    .flag 'z' "null-data", ⟨'i', "in-place", .optional, true⟩, .value 'l' "line-length",
    .flag 'b' "binary", .onlyLong 'p' "posix", .onlyLong 'x' "sandbox", .onlyLong 'L' "follow-symlinks",
    .onlyLong 'D' "debug"]

/-- An input of the editor: its name, and its bytes. -/
def inputOf (inPlace : Bool) (path : String) : Job (Option String) := do
  match ← source path with
  | .ok text => return some text
  | .error .isDirectory =>
    if inPlace then fault ("couldn't edit " ++ path ++ ": not a regular file") 4
    else refuse ("read error on " ++ path ++ ": Is a directory") 4
    return none
  | .error errno =>
    fault ("can't read " ++ path ++ ": " ++ errno.text) 2
    return none

/-- What was edited put back into its file, which is kept under another name where a suffix says so. A
link gives way to a file. -/
def putBack (ending : String) (follows : Bool) (path before after : String) : Job Unit := do
  let mode := match ← look path with
    | .ok (_, entry) => entry.mode
    | .error _ => 0o644
  if ending != "" then
    let kept := if ending.contains '*' then (lastPart path).intercalate (ending.splitOn "*") else path ++ ending
    let _ ← store kept before
  if !follows && (← leadsToLink path) then
    let _ ← change fun files cwd => files.unlink cwd (Text.textOf path)
  let _ ← store path after
  let _ ← change fun files cwd => files.changeMode cwd (Text.textOf path) mode

/-- The program that edits its input line by line. -/
def sed (arguments : List String) : Job Unit := do
  let (given, words) ← options editForms arguments
  let explicit : List Piece ← (given.filter fun g => g.key == 'e' || g.key == 'f').mapM fun g => do
    let value := g.value.getD ""
    if g.key == 'e' then return ⟨none, Text.textOf value⟩
    else match ← source value with
      | .ok text => return ⟨some value, chomped (Text.textOf text)⟩
      | .error errno => refuse ("couldn't open file " ++ value ++ ": " ++ errno.text) 4
  if explicit.isEmpty && words.isEmpty then
    sayError ("Usage: " ++ (← get).name ++
      " [OPTION]... \x7bscript-only-if-no-other-script\x7d [input-file]...\n")
    throw 1
  let pieces := if explicit.isEmpty then [⟨none, Text.textOf (words.headD "")⟩] else explicit
  let paths := if explicit.isEmpty then words.drop 1 else words
  let has (key : Char) : Bool := isGiven given key
  let script := "\n".intercalate (pieces.map (·.text))
  let d : Dialect := ⟨has 'E' || has 'r', !has 'z', has 'x'⟩
  match (commands d (script.length + 2) 0).run script.toList with
  | .error f => refuse (f.message pieces script.length)
  | .ok (all, _) =>
    let all := closed all
    if let some name := missingLabel? all then refuse ("can't find label for jump to `" ++ name ++ "'") 4
    for path in targetsOf all do
      if path != "/dev/stdout" then
        if let .error errno ← store (Text.octetsOf path) "" then
          refuse ("couldn't open file " ++ Text.octetsOf path ++ ": " ++ errno.text) 4
    let inPlace := has 'i'
    if inPlace && paths.isEmpty then refuse "no input files" 4
    let w ← get
    let sources ← (sourcesOf all).filterMapM fun path => do
      return ((← content (Text.octetsOf path)).toOption).map fun text => (path, text)
    let mut inputs : List (String × String) := []
    for path in (if paths.isEmpty then ["-"] else paths) do
      if let some text ← inputOf inPlace path then inputs := inputs ++ [(path, text)]
    let coding : Coding := ⟨(inputs ++ sources).all fun i => writesText i.2⟩
    let shownScript := (pieces.headD ⟨none, ""⟩).text
    let g : Setting :=
      { silent := has 'n' || (shownScript == "#n" || shownScript.startsWith "#n\n")
        ending := if has 'z' then '\x00' else '\n'
        width := (((valueOf given 'l').bind (·.toNat?)).getD 70) }
    let linesIn (input : String × String) : List (String × String) :=
      let text := coding.read input.2
      let lines := if has 'z' then
          let parts := (between '\x00' text.toList).map String.ofList
          let ends := parts.dropLast.map fun l => l.push '\x00'
          if parts.getLast? == some "" then ends else ends ++ (parts.getLast?).toList
        else linesOf text
      lines.map fun line => (input.1, line)
    let begun := Progress.fresh (sources.map fun s => (s.1, coding.read s.2))
    let finish (p : Progress) : Job Unit := do
      for (path, sheet) in p.written do
        let _ ← store (Text.octetsOf path) (coding.write sheet.text)
      if let some words := p.complaint then refuse ("-e expression #1, char 0: " ++ words)
      if let some status := p.ending then
        if paths.isEmpty && w.isSized then
          modify fun w => { w with input := coding.write (String.join (p.left.map (·.2))) }
        throw status
    if inPlace || has 's' then
      let mut p := begun
      for input in inputs do
        p := p.edit g all (linesIn input)
        let out := coding.write p.output.text
        if inPlace then
          let rest := if p.ending.isSome then coding.write (String.join (p.left.map (·.2))) else ""
          putBack ((valueOf given 'i').getD "") (has 'L') input.1 input.2 (out ++ rest)
        else say out
        if p.ending.isSome then break
      finish p
    else
      let all' := inputs.map linesIn
      let ended (lines : List (String × String)) : List (String × String) :=
        match lines.getLast? with
        | some (file, line) =>
          if line.endsWith (String.singleton g.ending) then lines
          else lines.dropLast ++ [(file, line.push g.ending)]
        | none => []
      let p := begun.edit g all ((all'.dropLast.map ended).flatten ++ all'.getLastD [])
      say (coding.write p.output.text)
      finish p

end Converge.Program.Edit
