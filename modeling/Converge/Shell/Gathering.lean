import Converge.Shell.Starter

/-!
# Words gathered for other programs

The program that starts another with words from its input: with all of them, with so many at a time,
with those of a line, or with each of them in the place of a mark.
-/

namespace Converge.Shell

open Act

/-- How words are gathered. -/
structure Gathering where
  /-- The most words of one call. -/
  size : Option Nat
  /-- The most lines of one call. -/
  lines : Option Nat
  /-- The most bytes of one call. -/
  bytes : Option Nat
  /-- What gives way to each line. -/
  mark : Option String
  /-- No call is made without words. -/
  lazily : Bool
  /-- What stands between words, which then have no quotation marks. -/
  divider : Option Char
  /-- A word at which the input ends. -/
  ending : Option String
  tells : Bool
  file : Option String

/-- A word of the input, and whether a line ends with it. -/
structure Gathered where
  word : String
  closes : Bool

namespace Gathering

/-- The words of a text up to a fault: between blanks or, where `whole` says so, on lines, with
quotation marks and backslashes keeping characters together. -/
def read (whole : Bool) (ending : Option String) :
    (fuel : Nat) → (current : Option (List Char)) → (mark : Option Char) → List Char →
    List Gathered × Option String
  | 0, _, _, _ => ([], none)
  | n + 1, current, mark, s =>
    let unmatched (q : Char) : Option String :=
      some ("unmatched " ++ (if q == '"' then "double" else "single") ++
        " quote; by default quotes are special to xargs unless you use the -0 option")
    let word := String.ofList (current.getD []).reverse
    let put (c : Char) (mark : Option Char) (rest : List Char) : List Gathered × Option String :=
      read whole ending n (some (c :: current.getD [])) mark rest
    let close (closes : Bool) (rest : List Char) : List Gathered × Option String :=
      match current with
      | none => read whole ending n none none rest
      | some _ =>
        if ending == some word then ([], none)
        else
          let (more, fault) := read whole ending n none none rest
          (⟨word, closes⟩ :: more, fault)
    match s, mark with
    | [], some q => ([], unmatched q)
    | [], none => (if word == "" then [] else [⟨word, true⟩], none)
    | '\n' :: _, some q => ([], unmatched q)
    | c :: rest, some q =>
      if c == q then read whole ending n (some (current.getD [])) none rest else put c mark rest
    | '\\' :: c :: rest, none => put c none rest
    | ['\\'], none => read whole ending n current none []
    | c :: rest, none =>
      if c == '\'' || c == '"' then read whole ending n (some (current.getD [])) (some c) rest
      else if c == '\n' then close true rest
      else if c == ' ' || c == '\t' then
        if whole && current.isSome then put c none rest else close false rest
      else put c none rest

def between (divider : Char) (text : String) : List Gathered :=
  let parts := (Program.between divider text.toList).map String.ofList
  let parts := if parts.getLast? == some "" then parts.dropLast else parts
  parts.map fun word => ⟨word, true⟩

/-- The words put together for the calls, with a fault where one is too long; `used` and `lines` count
what the call under way has. -/
def group (g : Gathering) (front : Nat) :
    (words : List Gathered) → (current : List String) → (used lines : Nat) →
    List (List String) × Option String
  | [], current, _, _ => (if current.isEmpty then [] else [current.reverse], none)
  | a :: rest, current, used, lines =>
    let size := (a.word.length : Nat) + 1
    let lines' := if a.closes then lines + 1 else lines
    let isFull := g.size.any (current.length + 1 ≤ ·) && g.size.any (· ≤ current.length + 1)
    let isFull := isFull || g.lines.any (· ≤ lines')
    if g.bytes.any (· < front + size) then
      (if current.isEmpty then [] else [current.reverse], some "argument line too long")
    else if g.bytes.any (· < used + size) then
      let (more, fault) := if isFull && g.size == some 1 then
          let (more, fault) := group g front rest [] front 0
          ([a.word] :: more, fault)
        else group g front rest [a.word] (front + size) (if a.closes then 1 else 0)
      (current.reverse :: more, fault)
    else if isFull then
      let (more, fault) := group g front rest [] front 0
      ((a.word :: current).reverse :: more, fault)
    else group g front rest (a.word :: current) (used + size) lines'

/-- The calls that are made with the words of a text; a fault is told in front of the last of them. -/
def calls (g : Gathering) (words : List String) (text : String) : List (List String) × Option String :=
  let words := if words.isEmpty then ["echo"] else words
  let (found, fault) := match g.divider with
    | some c => (between c text, none)
    | none => read g.mark.isSome g.ending (text.length + 1) none none text.toList
  match g.mark with
  | some mark => (found.map fun a => words.map fun w => a.word.intercalate (w.splitOn mark), fault)
  | none =>
    let front := words.foldl (fun n w => n + w.length + 1) 0
    let (groups, tooLong) := g.group front found [] front 0
    let groups := if groups.isEmpty && !g.lazily && fault.isNone && tooLong.isNone then [[]] else groups
    (groups.map (words ++ ·), tooLong <|> fault)

def divider? (word : String) : Except String Char :=
  match word.toList with
  | [c] => .ok c
  | '\\' :: c :: rest =>
    let wrong : Except String Char :=
      .error ("Invalid escape sequence " ++ word ++ " in input delimiter specification.")
    let plain : Except String Char := match c with
      | 'a' => .ok '\x07'
      | 'b' => .ok '\x08'
      | 'f' => .ok '\x0c'
      | 'n' => .ok '\n'
      | 'r' => .ok '\r'
      | 't' => .ok '\t'
      | 'v' => .ok '\x0b'
      | '\\' => .ok '\\'
      | _ => wrong
    let numbered (base : Nat) (digits : List Char) : Except String Char :=
      if !digits.isEmpty && digits.all fun d => (Text.digitOf? base d).isSome then
        .ok (Char.ofNat (Text.ofDigits base (digits.filterMap (Text.digitOf? base)) % 256))
      else wrong
    if c == 'x' then numbered 16 rest
    else if c.isDigit then numbered 8 (c :: rest)
    else if rest.isEmpty then plain else wrong
  | _ =>
    .error ("Invalid input delimiter specification " ++ word ++
      ": the delimiter must be either a single character or an escape sequence starting with \\.")

end Gathering

namespace Begun

def gatheringForms : List Program.OptionForm :=
  [.flag '0' "null", .value 'a' "arg-file", .value 'd' "delimiter", .value 'E',
    ⟨'e', "eof", .optional, true⟩, .value 'I', ⟨'i', "replace", .optional, true⟩, .value 'L',
    ⟨'l', "max-lines", .optional, true⟩, .value 'n' "max-args", .flag 'o' "open-tty",
    .value 's' "max-chars", .value 'P' "max-procs", .flag 'p' "interactive",
    .flag 'r' "no-run-if-empty", .flag 't' "verbose", .flag 'x' "exit",
    .onlyLong 'v' "process-slot-var" .required, .onlyLong 'S' "show-limits"]

/-- A warning that of two options the one before gives way. -/
def givesWay (b : Begun) (before now : String) (told : String) : Act Unit :=
  b.complain ("warning: options " ++ before ++ " and " ++ now ++
    " are mutually exclusive, ignoring previous " ++ told ++ " value")

/-- The manner of gathering that options ask for. -/
def gathering (b : Begun) (given : List Program.Given) : Starting Gathering := do
  let mut g : Gathering := ⟨none, none, none, none, false, none, none, false, none⟩
  for o in given do
    let value := o.value.getD ""
    let number (least : Nat) : Starting Nat := do
      let letter := String.singleton o.key
      match Program.takeWhole value.toList with
      | (some i, []) =>
        if i < least then
          b.misuse ("value " ++ value ++ " for -" ++ letter ++ " option should be >= " ++ toString least) 1
        else return i.toNat
      | _ => b.misuse ("invalid number \"" ++ value ++ "\" for -" ++ letter ++ " option") 1
    match o.key with
    | '0' => g := { g with divider := some '\x00' }
    | 'a' => g := { g with file := some value }
    | 'd' =>
      match Gathering.divider? value with
      | .ok c => g := { g with divider := some c }
      | .error words => b.refuse words 1
    | 'E' | 'e' => g := { g with ending := if value == "" then none else some value }
    | 'I' | 'i' =>
      if g.size.isSome then b.givesWay "--max-args" "--replace/-I/-i" "--max-args"
      if g.lines.isSome then b.givesWay "--max-lines" "--replace/-I/-i" "--max-lines"
      g := { g with mark := some (if value == "" then "\x7b\x7d" else value), size := none, lines := none }
    | 'L' | 'l' =>
      let n ← if o.value.isNone then pure 1 else number 1
      let shown := if o.key == 'L' then "-L" else "--max-lines/-l"
      if g.size.isSome then b.givesWay "--max-args" shown "--max-args"
      if g.mark.isSome then b.givesWay "--replace" shown "--replace"
      g := { g with lines := some n, size := none, mark := none }
    | 'n' =>
      let n ← number 1
      if g.lines.isSome then b.givesWay "--max-lines" "--max-args/-n" "--max-lines"
      if g.mark.isSome && n ≠ 1 then b.givesWay "--replace" "--max-args/-n" "--replace"
      if g.mark.isNone || n ≠ 1 then g := { g with size := some n, lines := none, mark := none }
    | 's' =>
      let n ← number 1
      g := { g with bytes := some n }
    | 'P' =>
      let _ ← number 0
    | 'r' => g := { g with lazily := true }
    | 't' | 'p' => g := { g with tells := true }
    | _ => pure ()
  return g

/-- The program that starts another with words from its input. -/
def xargs (b : Begun) (other : Starter) : Starting Finish := do
  let (given, words) ← b.options gatheringForms 1
  let g ← b.gathering given
  let s ← getThe State
  let text ← match g.file with
    | none =>
      let source := (s.places.lookup 0).getD 0
      set { s with system := s.system.leave source 0 }
      pure (s.system.readable source)
    | some path =>
      match readScript s path with
      | .ok content => pure (Text.octets content.toList)
      | .error errno => b.refuse ("Cannot open input file " ++ Program.marked path ++ ": " ++ errno.text) 1
  let (calls, fault) := g.calls words text
  let mut status := 0
  for (call, i) in calls.zipIdx do
    if i + 1 = calls.length then
      if let some words := fault then b.complain words
    if g.tells then write 2 (" ".intercalate (call.map Program.plainName) ++ "\n")
    let name := call.headD ""
    let finish ← within id (fun before s => { s with places := before.places }) (do
      if g.file.isNone then leadNew 0 .null
      (other b.environment call : Act Finish))
    match finish with
    | .exited 0 => pure ()
    | .exited 255 => b.refuse (name ++ ": exited with status 255; aborting") 124
    | .exited _ => status := 123
    | .signalled n => b.refuse (name ++ ": terminated by signal " ++ toString n) 125
    | .refused errno => b.refuse (name ++ ": " ++ errno.text) (missing errno)
  match fault with
  | some words =>
    if calls.isEmpty then b.complain words
    return .exited 1
  | none => return .exited status

end Begun

end Converge.Shell
