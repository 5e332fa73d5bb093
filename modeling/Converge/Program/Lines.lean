import Converge.Program.Layout
import Converge.Program.Naming
import Converge.Program.Options

/-!
# Programs that read lines

Programs that read files or their input and print lines of them, counted, cut or put in order.
-/

namespace Converge.Program

open Job

/-- The inputs that arguments name, the input of the program without any. -/
def inputsOf (paths : List String) : List String := if paths.isEmpty then ["-"] else paths

/-- The text of a named input, or nothing after a complaint. -/
def inputOrFault (path : String) (status : Nat := 1) : Job (Option String) := do
  match ← source path with
  | .ok text => return some text
  | .error errno =>
    fault (headName path ++ ": " ++ errno.text) status
    return none

/-- The text of all named inputs, one behind the other. -/
def allInputs (paths : List String) : Job String := do
  let mut text := ""
  for path in inputsOf paths do
    if let some more ← inputOrFault path then text := text ++ more
  return text

/-- Text filled up with blanks in front. -/
def padLeft (width : Nat) (s : String) : String :=
  String.ofList (List.replicate (width - s.length) ' ') ++ s

def between (mark : Char) (cs : List Char) : List (List Char) :=
  cs.foldr (fun c parts => match parts with
    | part :: rest => if c == mark then [] :: part :: rest else (c :: part) :: rest
    | [] => [[c]]) [[]]

/-! ## Whole inputs -/

/-- How inputs are shown. -/
structure Showing where
  numbers : Bool
  onlyFilled : Bool
  squeeze : Bool
  ends : Bool
  tabs : Bool
  hidden : Bool

def Showing.char (s : Showing) (c : Char) : String :=
  let n := c.toNat
  let plain (n : Nat) : String :=
    if n < 32 then "^" ++ String.singleton (Char.ofNat (n + 64))
    else if n = 127 then "^?"
    else String.singleton (Char.ofNat n)
  if c == '\t' then (if s.tabs then "^I" else "\t")
  else if !s.hidden || c == '\n' then String.singleton c
  else if n < 128 then plain n
  else "M-" ++ plain (n - 128)

/-- Lines shown; `number` is that of the line before and `blank` says that it is empty. -/
def Showing.lines (s : Showing) : (number : Nat) → (blank : Bool) → List String → String
  | _, _, [] => ""
  | number, blank, line :: rest =>
    let isBlank := line == "\n"
    if s.squeeze && blank && isBlank then s.lines number true rest
    else
      let counts := s.numbers && !(s.onlyFilled && isBlank)
      let front := if counts then padLeft 6 (toString (number + 1)) ++ "\t" else ""
      let body := String.join ((chomped line).toList.map s.char)
      let last := if line.endsWith "\n" then (if s.ends then "$\n" else "\n") else ""
      front ++ body ++ last ++ s.lines (if counts then number + 1 else number) isBlank rest

/-- The program that prints its inputs. -/
def cat (arguments : List String) : Job Unit := do
  let (given, paths) ← options
    [.flag 'n' "number", .flag 'b' "number-nonblank", .flag 's' "squeeze-blank", .flag 'E' "show-ends",
      .flag 'T' "show-tabs", .flag 'v' "show-nonprinting", .flag 'A' "show-all", .flag 'e', .flag 't',
      .flag 'u'] arguments
  let has (keys : String) := given.any fun g => keys.contains g.key
  if has "nbsETvAet" then
    let showing : Showing := ⟨has "nb", has "b", has "s", has "EAe", has "TAt", has "vAet"⟩
    say (showing.lines 0 false (linesOf (← allInputs paths)))
  else
    for path in inputsOf paths do
      if let some text ← inputOrFault path then say text

/-- The program that prints its inputs with the last line first. -/
def tac (arguments : List String) : Job Unit := do
  let (_, paths) ← options [] arguments
  for path in inputsOf paths do
    match ← source path with
    | .ok text => say (String.join (linesOf text).reverse)
    | .error .isDirectory => fault (headName path ++ ": read error: " ++ Errno.invalid.text)
    | .error errno => fault ("failed to open " ++ quotedName path ++ " for reading: " ++ errno.text)

/-- The program that prints each line from its end. -/
def rev (arguments : List String) : Job Unit := do
  let (_, paths) ← options [] arguments
  for path in inputsOf paths do
    match ← source path with
    | .ok text =>
      for line in linesOf text do
        let turned := Text.octetsOf (String.ofList (Text.textOf (chomped line)).toList.reverse)
        say (turned ++ if line.endsWith "\n" then "\n" else "")
    | .error errno => fault ("cannot open " ++ path ++ ": " ++ errno.text)

/-- A number in a field of a width: at its left, at its right, or there with zeros. -/
def numberField (form : String) (width : Nat) (i : Int) : String :=
  let l : Layout := ⟨form == "ln", false, false, false, form == "rz", width, none⟩
  l.whole 'd' i

/-- The program that numbers the lines of pages: all, those that are not empty, or none of them. -/
def nl (arguments : List String) : Job Unit := do
  let (given, paths) ← options
    [.value 'b' "body-numbering", .value 'h' "header-numbering", .value 'f' "footer-numbering",
      .value 'w' "number-width", .value 's' "number-separator", .value 'v' "starting-line-number",
      .value 'i' "line-increment", .value 'n' "number-format", .value 'l' "join-blank-lines",
      .value 'd' "section-delimiter", .flag 'p' "no-renumber"] arguments
  let number (key : Char) (words : String) (usual : Int) : Job Int := do
    match valueOf given key with
    | none => return usual
    | some word => match takeWhole word.toList with
      | (some i, []) => return i
      | _ => refuse ("invalid " ++ words ++ ": " ++ marked word)
  let start ← number 'v' "starting line number" 1
  let step ← number 'i' "line number increment" 1
  let width := (← number 'w' "line number field width" 6).toNat
  let gap := (valueOf given 's').getD "\t"
  let form := (valueOf given 'n').getD "rn"
  if !(["ln", "rn", "rz"].contains form) then misuse ("invalid line numbering format: " ++ marked form)
  let mark := (valueOf given 'd').getD "\\:"
  let mark := if mark.length = 1 then mark ++ ":" else mark
  let mut style := (valueOf given 'b').getD "t"
  let mut count := start
  for line in linesOf (← allInputs paths) do
    let bare := chomped line
    let sections := [(mark ++ mark ++ mark, 'h', "n"), (mark ++ mark, 'b', "t"), (mark, 'f', "n")]
    match sections.find? fun s => s.1 == bare with
    | some (_, key, usual) =>
      style := (valueOf given key).getD usual
      if !isGiven given 'p' && key = 'h' then count := start
      sayLine ""
    | none =>
      if style == "a" || (style == "t" && bare != "") then
        sayLine (numberField form width count ++ gap ++ bare)
        count := count + step
      else sayLine (String.ofList (List.replicate (width + gap.length) ' ') ++ bare)

/-! ## The two ends -/

/-- How much of an input is meant: so much from the front, all but so much, or from a place on. -/
structure Extent where
  bytes : Bool
  sign : Option Char
  count : Nat

def extentOf? (bytes : Bool) (word : String) : Option Extent :=
  let (sign, body) : Option Char × List Char := match word.toList with
    | '-' :: rest => (some '-', rest)
    | '+' :: rest => (some '+', rest)
    | cs => (none, cs)
  match takePlainDigits 10 body with
  | ([], _) => none
  | (ds, rest) => (factorOf? (String.ofList rest)).map fun f => ⟨bytes, sign, Text.ofDigits 10 ds * f⟩

/-- The extent that options ask for, ten lines without any. -/
def extentGiven (given : List Given) : Job Extent := do
  let mut extent : Extent := ⟨false, none, 10⟩
  for g in given do
    if g.key == 'n' || g.key == 'c' then
      let word := g.value.getD ""
      match extentOf? (g.key == 'c') word with
      | some e => extent := e
      | none =>
        refuse ("invalid number of " ++ (if g.key == 'c' then "bytes" else "lines") ++ ": " ++ marked word)
  return extent

/-- An extent of the front or, from the other side, of the end of some units. -/
def cutFront {α : Type} (e : Extent) (units : List α) : List α :=
  if e.sign = some '-' then units.take (units.length - e.count) else units.take e.count

def cutEnd {α : Type} (e : Extent) (units : List α) : List α :=
  if e.sign = some '+' then units.drop (e.count - 1) else units.drop (units.length - e.count)

def cutText (e : Extent) (cut : {α : Type} → Extent → List α → List α) (text : String) : String :=
  if e.bytes then String.ofList (cut e text.toList) else String.join (cut e (linesOf text))

/-- A number behind a dash as the first argument stands for a number of lines. -/
def oldExtent (arguments : List String) : List String :=
  match arguments with
  | first :: rest =>
    match first.toList with
    | '-' :: c :: cs =>
      if c.isDigit then
        let digits := (c :: cs).takeWhile Char.isDigit
        match (c :: cs).drop digits.length with
        | [] => "-n" :: String.ofList digits :: rest
        | ['c'] => "-c" :: String.ofList digits :: rest
        | more => "-n" :: String.ofList digits :: ("-" ++ String.ofList more) :: rest
      else arguments
    | _ => arguments
  | [] => []

/-- The program that prints one end of its inputs. -/
def anEnd (cut : {α : Type} → Extent → List α → List α) (arguments : List String) : Job Unit := do
  let (given, paths) ← options
    [.value 'n' "lines", .value 'c' "bytes", .flag 'q' "quiet", .onlyLong 'q' "silent", .flag 'v' "verbose",
      .flag 'f' "follow", .flag 'z' "zero-terminated"] (oldExtent arguments)
  let extent ← extentGiven given
  let paths := inputsOf paths
  let headed := (1 < paths.length && !isGiven given 'q') || isGiven given 'v'
  let mut first := true
  for path in paths do
    let refusal (errno : Errno) := fault ("cannot open " ++ quotedName path ++ " for reading: " ++ errno.text)
    let heading : String :=
      (if first then "" else "\n") ++ "==> " ++ (if path = "-" then "standard input" else path) ++ " <==\n"
    match ← source path with
    | .ok text =>
      if headed then say heading
      first := false
      say (cutText extent cut text)
    | .error .isDirectory =>
      if headed then say heading
      first := false
      fault ("error reading " ++ quotedName path ++ ": Is a directory")
    | .error errno => refusal errno

/-- The program that prints the front of its inputs. -/
def head (arguments : List String) : Job Unit := anEnd cutFront arguments

/-- The program that prints the end of its inputs. -/
def tail (arguments : List String) : Job Unit :=
  anEnd cutEnd (match arguments with
    | first :: rest =>
      if first.startsWith "+" && (first.toList.drop 1).all Char.isDigit && 1 < first.length then
        "-n" :: first :: rest
      else arguments
    | [] => [])

/-! ## Counts -/

/-- What is counted in a text. -/
structure Counts where
  lines : Nat
  words : Nat
  chars : Nat
  bytes : Nat
  longest : Nat

/-- The characters that a row of bytes writes; bytes that write none are left out. -/
def charsOf : (fuel : Nat) → List Char → List Char
  | 0, _ => []
  | _, [] => []
  | fuel + 1, c :: rest =>
    let more := if c.toNat < 128 then 0 else if c.toNat < 224 then 1 else if c.toNat < 240 then 2 else 3
    let bytes := String.ofList (c :: rest.take more)
    match (Text.textOf bytes).toList with
    | [made] =>
      if Text.octetsOf (String.singleton made) == bytes then made :: charsOf fuel (rest.drop more)
      else charsOf fuel rest
    | _ => charsOf fuel rest

/-- The widest of the lines of a text, tabs leading to the next of the places eight apart. -/
def widest (cs : List Char) : Nat :=
  let step (s : Nat × Nat) (c : Char) : Nat × Nat :=
    if c == '\n' || c == '\r' || c == '\x0c' then (max s.1 s.2, 0)
    else if c == '\t' then (s.1, s.2 + (8 - s.2 % 8))
    else if isHidden c then s
    else (s.1, s.2 + 1)
  let last := cs.foldl step (0, 0)
  max last.1 last.2

def countsOf (text : String) : Counts :=
  let cs := text.toList
  let step (s : Nat × Bool) (c : Char) : Nat × Bool :=
    if isNumeralBlank c then (s.1, false) else (if s.2 then s.1 else s.1 + 1, true)
  let chars := charsOf cs.length cs
  ⟨cs.countP (· == '\n'), (cs.foldl step (0, false)).1, chars.length, cs.length, widest chars⟩

/-- The program that counts lines, words and bytes. -/
def wc (arguments : List String) : Job Unit := do
  let (given, paths) ← options
    [.flag 'l' "lines", .flag 'w' "words", .flag 'm' "chars", .flag 'c' "bytes", .flag 'L' "max-line-length",
      .onlyLong 't' "total" .required]
    arguments
  let telling := (valueOf given 't').getD "auto"
  let asked := given.filter fun g => g.key != 't'
  let has (c : Char) := isGiven given c || (asked.isEmpty && (c == 'l' || c == 'w' || c == 'c'))
  let kept (c : Counts) : List Nat :=
    (if has 'l' then [c.lines] else []) ++ (if has 'w' then [c.words] else []) ++
      (if has 'm' then [c.chars] else []) ++ (if has 'c' then [c.bytes] else []) ++
      (if has 'L' then [c.longest] else [])
  let fields := (kept ⟨0, 0, 0, 0, 0⟩).length
  let inputs := inputsOf paths
  let mut rows : List (Option String × Except Errno Counts) := []
  let mut size := 0
  let mut least := 1
  for path in inputs do
    let w ← get
    let isSized := path != "-" || w.isSized
    let found ← source path
    match found with
    | .ok text =>
      if isSized then size := size + text.length else least := 7
      rows := (if paths.isEmpty then none else some path, .ok (countsOf text)) :: rows
    | .error errno =>
      if errno = .isDirectory then least := 7
      rows := (some path, .error errno) :: rows
  let width :=
    if (fields = 1 && inputs.length = 1) || telling == "only" then 1 else max least (toString size).length
  let line (name : Option String) (c : Counts) : String :=
    " ".intercalate ((kept c).map fun n => padLeft width (toString n)) ++
      (match name with | some name => " " ++ name | none => "")
  let zero : Counts := ⟨0, 0, 0, 0, 0⟩
  let mut total := zero
  for (name, row) in rows.reverse do
    match row with
    | .ok c =>
      total := ⟨total.lines + c.lines, total.words + c.words, total.chars + c.chars, total.bytes + c.bytes,
        max total.longest c.longest⟩
      if telling != "only" then sayLine (line name c)
    | .error errno =>
      fault (headName (name.getD "") ++ ": " ++ errno.text)
      if errno = .isDirectory && telling != "only" then sayLine (line name zero)
  if telling == "only" then sayLine (line none total)
  else if telling == "always" || (telling == "auto" && 1 < inputs.length) then
    sayLine (line (some "total") total)

/-! ## Copies -/

/-- The program that prints its input and puts it into files as well. -/
def tee (arguments : List String) : Job Unit := do
  let (given, paths) ← options
    [.flag 'a' "append", .flag 'i' "ignore-interrupts", .flag 'p'] arguments
  let text ← takeInput
  for path in paths do
    match ← store path text (isGiven given 'a') with
    | .ok () => pure ()
    | .error errno => fault (headName path ++ ": " ++ errno.text)
  say text

end Converge.Program
