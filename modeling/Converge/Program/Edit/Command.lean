import Converge.Program.Expression

/-!
# Commands of an editor

A script is a row of commands, each with the lines for which it is meant. `commands` reads a script;
what is wrong with one is said with the place where reading stopped.
-/

namespace Converge.Program.Edit

/-- The lines for which a command is meant, or where a range of them begins or ends. -/
inductive Address where
  | line (n : Nat)
  | step (first stride : Nat)
  | last
  | expression (e : Option Expression)
  /-- So many lines behind the begin of a range. -/
  | offset (n : Nat)
  /-- The next line whose number is a multiple. -/
  | multiple (n : Nat)

/-- A part of what is put in the place of a text that is found. -/
inductive Part where
  | text (c : Char)
  | group (n : Nat)
  /-- What follows is written in upper or lower case, up to an end. -/
  | case (mode : Char)

/-- What is put in the place of a text that is found, and what is done then. -/
structure Substitution where
  expression : Option Expression
  parts : List Part
  every : Bool
  shows : Bool
  /-- The first of the texts found that is replaced. -/
  nth : Nat
  /-- A file to which the line is written. -/
  file : Option String

/-- What a command does. -/
inductive Verb where
  | substitute (s : Substitution)
  | exchange (pairs : List (Char × Char))
  | append (text : String)
  | insert (text : String)
  | replace (text : String)
  | read (path : String)
  | readLine (path : String)
  /-- The line is written to a file, or only its first part. -/
  | write (path : String) (whole : Bool)
  /-- The line is told with all that cannot be seen, on lines of a width. -/
  | list (width : Option Nat)
  /-- A group of commands, up to the place behind it. -/
  | group (behind : Nat)
  | close
  | label (name : String)
  /-- Going on at a label, if a letter says so. -/
  | branch (letter : Char) (name : String)
  | quit (silent : Bool) (status : Nat)
  | simple (letter : Char)

/-- A command with its addresses. -/
structure Command where
  first : Option Address
  second : Option Address
  turned : Bool
  verb : Verb

/-! ## Reading a script -/

/-- What is wrong with a script, and what of it is left there; none where it is not known where. -/
structure Fault where
  words : String
  left : Option Nat

/-- How scripts are read. -/
structure Dialect where
  extended : Bool
  /-- Lines may have line feeds in them. -/
  joined : Bool
  /-- Commands that use files are refused. -/
  confined : Bool

abbrev Reading := StateT (List Char) (Except Fault)

def wrong {α : Type} (words : String) : Reading α := do
  throw ⟨words, some (← get).length⟩

/-- Characters are passed as long as they are of a kind. -/
def skip (p : Char → Bool) : Reading Unit := modify (·.dropWhile p)

def skipBlanks : Reading Unit := skip fun c => c == ' ' || c == '\t'

/-- Characters are passed, and they are kept. -/
def takeWhile (p : Char → Bool) : Reading (List Char) := do
  let s ← get
  set (s.dropWhile p)
  return s.takeWhile p

def number? : Reading (Option Nat) := do
  match ← takeWhile Char.isDigit with
  | [] => return none
  | ds => return some (Text.ofDigits 10 (ds.map fun c => c.toNat - 48))

/-- The character that a letter behind a backslash stands for, perhaps with digits behind it, and what
follows. -/
def meant? (letter : Char) (s : List Char) : Option (Char × List Char) :=
  let read (base most : Nat) : Option (Char × List Char) :=
    let digits := (s.take most).takeWhile fun c => (Text.digitOf? base c).isSome
    if digits.isEmpty then none
    else some (Char.ofNat (Text.ofDigits base (digits.filterMap (Text.digitOf? base)) % 256), s.drop digits.length)
  match letter with
  | 'x' => read 16 2
  | 'o' => read 8 3
  | 'd' => read 10 3
  | 'a' => some ('\x07', s)
  | 'f' => some ('\x0c', s)
  | 'r' => some ('\r', s)
  | 't' => some ('\t', s)
  | 'v' => some ('\x0b', s)
  | _ => none

/-- The text up to a mark, which a backslash makes a part of it; none where there is no mark on the
line. In an expression the mark is a part too inside of square brackets, whose depth is zero outside,
one at their begin and two further on. -/
def untilMark (mark : Char) (expression : Bool) : (fuel : Nat) → (inside : Nat) → List Char →
    Option (List Char × List Char)
  | 0, _, _ | _, _, [] => none
  | fuel + 1, inside, '\\' :: c :: rest =>
    let meant (cs rest : List Char) : Option (List Char × List Char) :=
      (untilMark mark expression fuel (min (2 * inside) 2) rest).map fun (t, r) => (cs ++ t, r)
    if inside ≠ 0 && c != mark && c != 'n' && c != ']' then meant ['\\', c] rest
    else if inside ≠ 0 && c == ']' then
      (untilMark mark expression fuel 0 rest).map fun (t, r) => ('\\' :: ']' :: t, r)
    else if c == mark && mark != '\\' then
      meant (if expression && inside = 0 && "*.[]^$+?()|\x7b\x7d".contains c then ['\\', c] else [c]) rest
    else if expression && c == 'n' then meant ['\n'] rest
    else if expression then
      match meant? c rest with
      | some (d, rest) => meant [d] rest
      | none => meant ['\\', c] rest
    else meant ['\\', c] rest
  | fuel + 1, inside, '[' :: ':' :: rest =>
    let name := rest.takeWhile Char.isAlpha
    match expression && inside ≠ 0, rest.drop name.length with
    | true, ':' :: ']' :: rest =>
      (untilMark mark expression fuel 2 rest).map fun (t, r) => ("[:".toList ++ name ++ ":]".toList ++ t, r)
    | _, _ => (untilMark mark expression fuel (if expression then 2 else 0) (':' :: rest)).map fun (t, r) => ('[' :: t, r)
  | fuel + 1, inside, c :: rest =>
    if c == mark && inside = 0 then some ([], rest)
    else if c == '\n' then none
    else
      let next := match expression, inside, c with
        | false, _, _ => 0
        | true, 0, '[' => 1
        | true, 0, _ => 0
        | true, 1, '^' => 1
        | true, 2, ']' => 0
        | true, _, _ => 2
      (untilMark mark expression fuel next rest).map fun (t, r) => (c :: t, r)

def delimited (mark : Char) (expression : Bool) (words : String) : Reading (List Char) := do
  let s ← get
  match untilMark mark expression (s.length + 1) 0 s with
  | some (text, rest) =>
    set rest
    return text
  | none =>
    skip (· != '\n')
    wrong words

/-- The expression that a text writes; an empty text stands for the one used last. -/
def expressionOf (d : Dialect) (flags text : List Char) : Reading (Option Expression) :=
  if text.isEmpty then return none
  else
    let m : Expression.Manner :=
      { extended := d.extended, ignoresCase := flags.contains 'i' || flags.contains 'I', strict := d.extended
        byLines := d.joined && (flags.contains 'm' || flags.contains 'M') }
    match Expression.read m (String.ofList text) with
    | .ok e => return some e
    | .error words => wrong words

/-- The address at the front, if there is one; `isFirst` says that no other stands before it. -/
def address? (d : Dialect) (isFirst : Bool) : Reading (Option Address) := do
  let expression (mark : Char) : Reading (Option Address) := do
    let text ← delimited mark true "unterminated address regex"
    let flags ← takeWhile fun c => c == 'I' || c == 'M'
    return some (.expression (← expressionOf d flags text))
  let relative (make : Nat → Address) (rest : List Char) : Reading (Option Address) := do
    set rest
    let n := (← number?).getD 0
    if isFirst then wrong "invalid usage of +N or ~N as first address"
    return some (make n)
  match ← get with
  | '$' :: rest =>
    set rest
    return some .last
  | '/' :: rest =>
    set rest
    expression '/'
  | '\\' :: c :: rest =>
    set rest
    expression c
  | '+' :: rest => relative .offset rest
  | '~' :: rest => relative .multiple rest
  | _ =>
    match ← number? with
    | none => return none
    | some n =>
      match ← get with
      | '~' :: rest =>
        set rest
        return some (.step n ((← number?).getD 0))
      | _ => return some (.line n)

def partsOf : (fuel : Nat) → List Char → List Part
  | 0, _ => []
  | _, [] => []
  | fuel + 1, '\\' :: c :: rest =>
    let put (p : Part) : List Part := p :: partsOf fuel rest
    if c.isDigit then put (.group (c.toNat - 48))
    else if "ULEul".contains c then put (.case c)
    else match c with
      | 'n' => put (.text '\n')
      | c =>
        match meant? c rest with
        | some (d, rest) => .text d :: partsOf fuel rest
        | none => put (.text c)
  | fuel + 1, '&' :: rest => .group 0 :: partsOf fuel rest
  | fuel + 1, c :: rest => .text c :: partsOf fuel rest

/-- The text of a command that adds lines: the rest of the line, and the next where a backslash
stands at its end. -/
def addedText : (fuel : Nat) → List Char → List Char × List Char
  | 0, s => ([], s)
  | _, [] => ([], [])
  | fuel + 1, '\\' :: c :: rest =>
    let (d, rest) := if c == 'n' then ('\n', rest) else (meant? c rest).getD (c, rest)
    let (more, rest) := addedText fuel rest
    (d :: more, rest)
  | fuel + 1, c :: rest =>
    if c == '\n' then ([], rest)
    else
      let (more, rest) := addedText fuel rest
      (c :: more, rest)

/-- The text of a command that adds lines, with blanks in front of it passed over. -/
def added : Reading String := do
  skipBlanks
  match ← get with
  | [] => wrong "expected \\ after `a', `c' or `i'"
  | ['\\'] | ['\\', '\n'] =>
    set ([] : List Char)
    return ""
  | s =>
    match s with
    | '\\' :: rest =>
      let behind := rest.dropWhile fun c => c == ' ' || c == '\t'
      set (match behind with
        | '\n' :: behind => behind
        | _ => rest)
    | _ => pure ()
    let s ← get
    let (text, rest) := addedText (s.length + 1) s
    set rest
    return String.ofList text ++ "\n"

def fileName (d : Dialect) : Reading String := do
  if d.confined then wrong "e/r/w commands disabled in sandbox mode"
  skipBlanks
  match ← takeWhile (· != '\n') with
  | [] => wrong "missing filename in r/R/w/W commands"
  | name => return String.ofList name

/-- What stands behind a substitution. -/
structure SubstitutionFlags where
  letters : List Char
  nth : Option Nat
  file : Option String

def substitutionFlags (d : Dialect) : (fuel : Nat) → SubstitutionFlags → Reading SubstitutionFlags
  | 0, f => return f
  | n + 1, f => do
    match ← get with
    | [] => return f
    | c :: rest =>
      if c == '}' || c == '#' || c == ';' || c == '\n' then return f
      else if c == ' ' then
        set rest
        substitutionFlags d n f
      else if c.isDigit then
        let nth := (← number?).getD 0
        if f.nth.isSome then wrong "multiple number options to `s' command"
        if nth = 0 then wrong "number option to `s' command may not be zero"
        substitutionFlags d n { f with nth := some nth }
      else
        set rest
        match c with
        | 'w' => return { f with file := some (← fileName d) }
        | c =>
          if !"gpiImMe".contains c then wrong "unknown option to `s'"
          if (c == 'g' || c == 'p') && f.letters.contains c then
            wrong ("multiple `" ++ String.singleton c ++ "' options to `s' command")
          substitutionFlags d n { f with letters := c :: f.letters }

/-- The command of substitution behind its letter. -/
def substitution (d : Dialect) : Reading Verb := do
  match ← get with
  | [] => wrong "unterminated `s' command"
  | mark :: rest =>
    set rest
    let pattern ← delimited mark true "unterminated `s' command"
    let replacement ← delimited mark false "unterminated `s' command"
    let flags ← substitutionFlags d ((← get).length + 1) ⟨[], none, none⟩
    let e ← expressionOf d flags.letters pattern
    let parts := partsOf (replacement.length + 1) replacement
    let highest := parts.foldl (fun n p => match p with
      | .group k => max n k
      | _ => n) 0
    if (e.map Expression.groupCount).any (· < highest) then
      wrong ("invalid reference \\" ++ toString highest ++ " on `s' command's RHS")
    return .substitute
      { expression := e, parts, every := flags.letters.contains 'g', shows := flags.letters.contains 'p'
        nth := flags.nth.getD 1, file := flags.file }

/-- The command of exchange behind its letter. -/
def exchange : Reading Verb := do
  match ← get with
  | [] => wrong "unterminated `y' command"
  | mark :: rest =>
    set rest
    let plain (cs : List Char) : List Char := (partsOf (cs.length + 1) cs).filterMap fun p => match p with
      | .text c => some c
      | .group 0 => some '&'
      | _ => none
    let source := plain (← delimited mark false "unterminated `y' command")
    let target := plain (← delimited mark false "unterminated `y' command")
    if source.length ≠ target.length then wrong "strings for `y' command are different lengths"
    else return .exchange (source.zip target)

def verb (d : Dialect) (letter : Char) : Reading Verb := do
  let word : Reading String := do
    skipBlanks
    return String.ofList (← takeWhile fun c => c != '\n' && c != ';' && c != '\x7d' && c != ' ')
  match letter with
  | 's' => substitution d
  | 'y' => exchange
  | 'a' => return .append (← added)
  | 'i' => return .insert (← added)
  | 'c' => return .replace (← added)
  | 'r' => return .read (← fileName d)
  | 'R' => return .readLine (← fileName d)
  | 'w' => return .write (← fileName d) true
  | 'W' => return .write (← fileName d) false
  | 'l' =>
    skipBlanks
    return .list (← number?)
  | '\x7b' => return .group 0
  | '\x7d' => return .close
  | ':' =>
    let name ← word
    if name == "" then wrong "\":\" lacks a label"
    return .label name
  | 'q' | 'Q' =>
    skipBlanks
    return .quit (letter == 'Q') ((← number?).getD 0)
  | letter =>
    if "btT".contains letter then return .branch letter (← word)
    else if "=dDFgGhHnNpPxz".contains letter then return .simple letter
    else wrong ("unknown command: `" ++ String.singleton letter ++ "'")

/-- What is wrong with the addresses of a verb. -/
def addressFault? (first second : Option Address) (letter : Char) : Option String :=
  let isZero := match first, second, letter with
    | some (.line 0), some (.expression _), _ => false
    | some (.line 0), none, 'r' => false
    | some (.line 0), _, _ => true
    | _, _, _ => false
  if first.isSome && letter == ':' then some ": doesn't want any addresses"
  else if second.isSome && (letter == 'q' || letter == 'Q') then some "command only uses one address"
  else if isZero then some "invalid usage of line address 0"
  else none

/-- The end of a command. -/
def ending : Reading Unit := do
  skipBlanks
  match ← get with
  | [] => return ()
  | c :: rest =>
    if !(";\n\x7d#".contains c) then
      set rest
      wrong "extra characters after command"

/-- The commands of a script; `depth` groups are open. -/
def commands (d : Dialect) : (fuel : Nat) → (depth : Nat) → Reading (List Command)
  | 0, _ => return []
  | fuel + 1, depth => do
    skip fun c => isNumeralBlank c || c == ';'
    match ← get with
    | [] => if depth = 0 then return [] else throw ⟨"unmatched `\x7b'", none⟩
    | '#' :: _ =>
      skip (· != '\n')
      commands d fuel depth
    | _ =>
      let first ← address? d true
      skipBlanks
      let second ← match first, ← get with
        | some _, ',' :: rest => do
          set rest
          skipBlanks
          match ← address? d false with
          | some a => pure (some a)
          | none => do
            modify (·.drop 1)
            wrong "unexpected `,'"
        | _, _ => pure none
      skipBlanks
      let turned : Bool ← match ← get with
        | '!' :: rest => do
          set (rest.dropWhile fun c => c == ' ' || c == '\t')
          if (← get).head? == some '!' then
            modify (·.drop 1)
            wrong "multiple `!'s"
          pure true
        | _ => pure false
      match ← get with
      | [] => wrong "missing command"
      | letter :: rest =>
        set rest
        if letter == '\n' then wrong "missing command"
        if letter == '\x7d' && depth = 0 then wrong "unexpected `\x7d'"
        if let some words := addressFault? first second letter then wrong words
        let made ← verb d letter
        let depth := match made with
          | .group _ => depth + 1
          | .close => depth - 1
          | _ => depth
        match made with
        | .group _ | .append _ | .insert _ | .replace _ | .label _ => pure ()
        | _ => ending
        let rest ← commands d fuel depth
        return ⟨first, second, turned, made⟩ :: rest

/-- The commands with the place behind each group in it; `place` is that of the first. -/
def closed (all : List Command) : List Command :=
  all.zipIdx.map fun (c, i) => match c.verb with
    | .group _ => { c with verb := .group (behind (all.drop (i + 1)) (i + 1) 0) }
    | _ => c
where
  /-- The place behind the end of a group in which `depth` groups are open. -/
  behind : List Command → (place depth : Nat) → Nat
    | [], place, _ => place
    | c :: rest, place, depth => match c.verb with
      | .group _ => behind rest (place + 1) (depth + 1)
      | .close => if depth = 0 then place + 1 else behind rest (place + 1) (depth - 1)
      | _ => behind rest (place + 1) depth

def sourcesOf (all : List Command) : List String :=
  all.filterMap fun c => match c.verb with
    | .read path | .readLine path => some path
    | _ => none

def targetsOf (all : List Command) : List String :=
  all.filterMap fun c => match c.verb with
    | .write path _ => some path
    | .substitute s => s.file
    | _ => none

/-- A label to which commands go and which does not stand. -/
def missingLabel? (all : List Command) : Option String :=
  let stands (name : String) : Bool := all.any fun c => match c.verb with
    | .label n => n == name
    | _ => false
  all.findSome? fun c => match c.verb with
    | .branch _ name => if name != "" && !stands name then some name else none
    | _ => none

end Converge.Program.Edit
