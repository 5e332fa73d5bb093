import Converge.Program.Expression
import Converge.Program.Pattern
import Converge.Program.Permission
import Converge.Shell.Gathering

/-!
# Files that are looked for

The program that walks trees of files, asks conditions of each file and does something with it. A
condition may itself be something that is done; what stands behind it is done only if it holds.
-/

namespace Converge.Shell

open Act

/-- How a number is compared with another that is asked for. -/
inductive Bound where
  | exactly
  | more
  | less
deriving DecidableEq

namespace Bound

/-- The number is one of those that are asked for. -/
def admits (b : Bound) (asked found : Nat) : Bool :=
  match b with
  | exactly => found == asked
  | more => asked < found
  | less => found < asked

/-- A sign in front of a word that says how numbers are compared, and the rest of the word. -/
def take (word : String) : Bound × List Char :=
  match word.toList with
  | '+' :: rest => (more, rest)
  | '-' :: rest => (less, rest)
  | rest => (exactly, rest)

end Bound

/-- What is asked of a file, or done with it. -/
inductive Condition where
  | always (value : Bool)
  /-- The last part of the path, or all of it, as a pattern says. -/
  | name (whole folds : Bool) (pattern : String)
  | expression (e : Program.Expression)
  | kind (letters : List Char)
  | size (bound : Bound) (count unit : Nat)
  | age (bound : Bound) (count : Nat)
  | empty
  | permission (bound : Bound) (bits : Nat)
  | startable
  | target (pattern : String)
  | tell (format : String)
  | tellBare (ending : String)
  /-- Programs started with the path in the place of braces, for each file or for all together. -/
  | each (words : List String) (inside : Bool)
  | together (key : Nat) (words : List String)
  | delete
  | prune
  | quit
  | negated (c : Condition)
  | both (a b : Condition)
  | either (a b : Condition)
  | row (a b : Condition)

namespace Condition

/-- Something is done that makes it needless to tell the file. -/
def isDeed : Condition → Bool
  | tell _ | tellBare _ | each .. | together .. | delete | quit => true
  | negated c => isDeed c
  | both a b | either a b | row a b => isDeed a || isDeed b
  | _ => false

def deletes : Condition → Bool
  | delete => true
  | negated c => deletes c
  | both a b | either a b | row a b => deletes a || deletes b
  | _ => false

end Condition

/-- How trees are walked, and what is asked. -/
structure Finding where
  follows : Bool
  followsFirst : Bool
  least : Nat
  most : Nat
  innerFirst : Bool

/-! ## Reading conditions -/

/-- What is left of the words, and what was read of how trees are walked. -/
structure FindingState where
  words : List String
  finding : Finding
  /-- How many programs are started for all files together. -/
  together : Nat
  /-- The last condition takes a pattern. -/
  patterned : Option String
  dialect : String
  /-- Something stands at a path. -/
  stands : String → Bool

/-- A reader of conditions; it fails with a complaint. -/
abbrev ConditionReader := ExceptT String (StateM FindingState)

namespace ConditionReader

def peek : ConditionReader (Option String) := do return (← get).words.head?

def pass : ConditionReader Unit := modify fun s => { s with words := s.words.tail }

def argument (name : String) : ConditionReader String := do
  match (← get).words with
  | word :: rest =>
    modify fun s => { s with words := rest }
    return word
  | [] => throw ("missing argument to " ++ String.singleton (Char.ofNat 96) ++ name ++ "'")

/-- A whole number without a sign. -/
def natural (name word : String) : ConditionReader Nat :=
  if word != "" && word.all Char.isDigit then return (word.toNat?).getD 0
  else throw ("Expected a positive decimal integer argument to " ++ name ++ ", but got " ++ Program.marked word)

/-- The words of a program to be started, and whether all files are given to it together. -/
def command (name : String) : (fuel : Nat) → List String → ConditionReader (List String × Bool)
  | 0, _ => throw ("missing argument to " ++ String.singleton (Char.ofNat 96) ++ name ++ "'")
  | n + 1, done => do
    let word ← argument name
    if word == ";" then
      if done.isEmpty then throw ("missing argument to " ++ String.singleton (Char.ofNat 96) ++ name ++ "'")
      return (done.reverse, false)
    else
      let holder := "\x7b\x7d"
      match done with
      | last :: before =>
        if word == "+" && last == holder && !before.isEmpty then
          if before.contains holder then
            throw ("Only one instance of " ++ holder ++ " is supported with " ++ name ++ " ... +")
          return (before.reverse, true)
        else if word == "+" && (last.splitOn holder).length = 2 && last != holder && !before.isEmpty then
          throw ("In " ++ Program.marked (name ++ " ... " ++ holder ++ " +") ++ " the " ++
            Program.marked holder ++ " must appear by itself, but you specified " ++ Program.marked last)
        else command name n (word :: done)
      | [] => command name n [word]

def size (word : String) : ConditionReader Condition := do
  let (bound, cs) := Bound.take word
  let digits := cs.takeWhile Char.isDigit
  let wrong (c : Char) : ConditionReader Condition :=
    throw ("invalid -size type " ++ String.singleton (Char.ofNat 96) ++ String.singleton c ++ "'")
  let unit : Option Nat := match cs.drop digits.length with
    | [] | ['b'] => some 512
    | ['c'] => some 1
    | ['w'] => some 2
    | ['k'] => some 1024
    | ['M'] => some 1048576
    | ['G'] => some 1073741824
    | _ => none
  match unit with
  | none => wrong ((cs.getLast?).getD ' ')
  | some unit =>
    if digits.isEmpty then wrong ((cs.getLast?).getD ' ')
    else return .size bound ((String.ofList digits).toNat?.getD 0) unit

def kind (word : String) : ConditionReader Condition := do
  if word == "" then throw "Arguments to -type should contain at least one letter"
  let parts := Program.between ',' word.toList
  let letters ← parts.mapM fun p => do
    match p with
    | [c] =>
      if "bcdpflsD".contains c then return c
      else throw ("Unknown argument to -type: " ++ String.singleton c)
    | [] => throw "Last file type in list argument to -type is missing, i.e., list is ending on: ','"
    | c :: _ =>
      if "bcdpflsD".contains c then throw "Must separate multiple arguments to -type using: ','"
      else throw ("Unknown argument to -type: " ++ String.singleton c)
  return .kind letters

def permission (word : String) : ConditionReader Condition := do
  let (bound, word) : Bound × String := match word.toList with
    | '-' :: rest => (.more, String.ofList rest)
    | '/' :: rest => (.less, String.ofList rest)
    | _ => (.exactly, word)
  match Program.Mode.changed? 0 word false 0 with
  | some bits => return .permission bound bits
  | none => throw ("invalid mode " ++ Program.marked word)

/-- The condition of an expression for the whole path. -/
def expression (folds : Bool) (word : String) : ConditionReader Condition := do
  let dialect := (← get).dialect
  let isExtended := ["posix-extended", "egrep", "posix-egrep", "awk", "gnu-awk", "posix-awk"].contains dialect
  let isPlain := ["posix-basic", "sed", "ed", "grep"].contains dialect
  let turned (s : List Char × Bool) (c : Char) : List Char × Bool :=
    if s.2 then (c :: s.1, false)
    else if c == '\\' then (c :: s.1, true)
    else if c == '+' || c == '?' then (c :: '\\' :: s.1, false)
    else (c :: s.1, false)
  let text := Text.textOf word
  let text := if isExtended || isPlain then text
    else String.ofList (text.toList.foldl turned ([], false)).1.reverse
  match Program.Expression.read { extended := isExtended, ignoresCase := folds } text with
  | .ok e => return .expression e
  | .error words => throw words

def primary (name : String) : ConditionReader Condition := do
  let options (f : Finding → Finding) : ConditionReader Condition := do
    modify fun s => { s with finding := f s.finding }
    return .always true
  modify fun s => { s with patterned := none }
  let pattern (whole folds : Bool) : ConditionReader Condition := do
    let word ← argument name
    modify fun s => { s with patterned := some name }
    return .name whole folds word
  match name with
  | "-name" => pattern false false
  | "-iname" => pattern false true
  | "-path" | "-wholename" => pattern true false
  | "-ipath" | "-iwholename" => pattern true true
  | "-regex" => expression false (← argument name)
  | "-iregex" => expression true (← argument name)
  | "-regextype" =>
    let word ← argument name
    modify fun s => { s with dialect := word }
    return .always true
  | "-lname" => return .target (← argument name)
  | "-type" => kind (← argument name)
  | "-size" => size (← argument name)
  | "-empty" => return .empty
  | "-perm" => permission (← argument name)
  | "-executable" => return .startable
  | "-readable" | "-writable" | "-true" => return .always true
  | "-false" => return .always false
  | "-mtime" | "-ctime" | "-atime" =>
    let word ← argument name
    let (bound, digits) := Bound.take word
    match (String.ofList digits).toNat? with
    | some n => return .age bound n
    | none => throw ("invalid argument " ++ String.singleton (Char.ofNat 96) ++ word ++ "' to " ++
        String.singleton (Char.ofNat 96) ++ name ++ "'")
  | "-print" => return .tellBare "\n"
  | "-print0" => return .tellBare "\x00"
  | "-printf" => return .tell (← argument name)
  | "-exec" | "-execdir" =>
    let s ← get
    let (words, isTogether) ← command name (s.words.length + 1) []
    if isTogether then
      modify fun s => { s with together := s.together + 1 }
      return .together s.together words
    else return .each words (name == "-execdir")
  | "-delete" =>
    modify fun s => { s with finding := { s.finding with innerFirst := true } }
    return .delete
  | "-prune" => return .prune
  | "-quit" => return .quit
  | "-maxdepth" =>
    let n ← natural name (← argument name)
    options fun f => { f with most := n }
  | "-mindepth" =>
    let n ← natural name (← argument name)
    options fun f => { f with least := n }
  | "-depth" | "-d" => options fun f => { f with innerFirst := true }
  | "-follow" => options fun f => { f with follows := true, followsFirst := true }
  | "-newer" | "-anewer" | "-cnewer" =>
    let path ← argument name
    if (← get).stands path then return .always false
    else throw (Program.marked path ++ ": " ++ Errno.noEntry.text)
  | "-user" | "-group" | "-uid" | "-gid" =>
    let word ← argument name
    if word == "root" || word == "0" then return .always true
    else throw (Program.marked word ++ " is not the name of " ++
      (if name == "-user" then "a known user" else "an existing group"))
  | "-nouser" | "-nogroup" => return .always false
  | "-xdev" | "-mount" | "-noleaf" | "-daystart" | "-warn" | "-nowarn" | "-ignore_readdir_race" =>
    return .always true
  | name => throw ("unknown predicate " ++ String.singleton (Char.ofNat 96) ++ name ++ "'")

mutual

def row : (fuel : Nat) → ConditionReader Condition
  | 0 => throw "invalid expression"
  | n + 1 => do
    let a ← either n
    if (← peek) == some "," then
      pass
      return .row a (← row n)
    else return a

def either : (fuel : Nat) → ConditionReader Condition
  | 0 => throw "invalid expression"
  | n + 1 => do
    let a ← both n
    match ← peek with
    | some word =>
      if word == "-o" || word == "-or" then
        pass
        if (← peek).isNone then throw ("expected an expression after '" ++ word ++ "'")
        return .either a (← either n)
      else return a
    | none => return a

def both : (fuel : Nat) → ConditionReader Condition
  | 0 => throw "invalid expression"
  | n + 1 => do
    let a ← single n
    match ← peek with
    | none | some "," | some "-o" | some "-or" | some ")" => return a
    | some word =>
      if word == "-a" || word == "-and" then
        pass
        if (← peek).isNone then throw ("expected an expression after '" ++ word ++ "'")
      return .both a (← both n)

/-- A condition, one that is turned round, or conditions in brackets. -/
def single : (fuel : Nat) → ConditionReader Condition
  | 0 => throw "invalid expression"
  | n + 1 => do
    match ← peek with
    | none => throw "invalid expression"
    | some word =>
      pass
      match word with
      | "!" | "-not" =>
        if (← peek).isNone then throw ("expected an expression after '" ++ word ++ "'")
        return .negated (← single n)
      | "(" =>
        if (← peek).isNone then
          throw ("invalid expression; expected to find a ')' but didn't see one. " ++
            "Perhaps you need an extra predicate after '('")
        if (← peek) == some ")" then throw "invalid expression; empty parentheses are not allowed."
        let c ← row n
        if (← peek) == some ")" then
          pass
          return c
        else throw "invalid expression; I was expecting to find a ')' somewhere but did not see one."
      | ")" => throw "invalid expression; you have too many ')'"
      | "-o" | "-or" | "-a" | "-and" | "," =>
        throw ("invalid expression; you have used a binary operator '" ++ word ++ "' with nothing before it.")
      | word =>
        if word.startsWith "-" && word != "-" then primary word
        else
          let s ← get
          let hint := if s.stands word then s.patterned else none
          let words := "paths must precede expression: " ++ String.singleton (Char.ofNat 96) ++ word ++ "'"
          throw (match hint with
            | some name => words ++ "\nfind: possible unquoted pattern after predicate " ++
                String.singleton (Char.ofNat 96) ++ name ++ "'?"
            | none => words)

end

/-- All conditions; none where there are no words. -/
def all : ConditionReader Condition := do
  let s ← get
  if s.words.isEmpty then return .always true
  else
    let c ← row (8 * s.words.length + 8)
    match ← peek with
    | none => return c
    | some ")" => throw "you have too many ')'"
    | some _ => throw "invalid expression"

end ConditionReader

/-! ## Walking -/

/-- A file that is asked about. -/
structure Found where
  path : String
  /-- The path from which it was reached. -/
  start : String
  depth : Nat
  place : Place
  entry : Entry

/-- What has come of a walk. -/
structure Walk where
  status : Nat
  pruned : Bool
  stopped : Bool
  /-- The paths that wait for programs that get them together, by the numbers of the conditions. -/
  waiting : List (Nat × List String)

abbrev Walking := StateT Walk Act

namespace Finding

def kindLetter : Entry → Char
  | .file .. => 'f'
  | .directory _ => 'd'
  | .link _ => 'l'

def sizeOf : Entry → Nat
  | .file content _ => content.size
  | .directory _ => 4096
  | .link target => target.utf8ByteSize

/-- The text in front of the last part of a path. -/
def frontOf (path : String) : String :=
  let front := (path.toList.reverse.dropWhile (· ≠ '/')).drop 1
  if path.contains '/' then String.ofList front.reverse else "."

def formatted (f : Found) : (fuel : Nat) → List Char → List Char
  | 0, _ => []
  | n + 1, s =>
    let put (text : String) (rest : List Char) : List Char := text.toList ++ formatted f n rest
    let octal (n : Nat) : String := String.ofList (Nat.toDigits 8 n)
    match s with
    | [] => []
    | '\\' :: c :: rest =>
      let digits := ((c :: rest).take 3).takeWhile fun d => (Text.digitOf? 8 d).isSome
      if !digits.isEmpty then
        put (String.singleton (Char.ofNat (Text.ofDigits 8 (digits.filterMap (Text.digitOf? 8)) % 256)))
          ((c :: rest).drop digits.length)
      else match c with
        | 'a' => put "\x07" rest
        | 'b' => put "\x08" rest
        | 'f' => put "\x0c" rest
        | 'n' => put "\n" rest
        | 'r' => put "\r" rest
        | 't' => put "\t" rest
        | 'v' => put "\x0b" rest
        | '\\' => put "\\" rest
        | 'c' => []
        | c => '\\' :: c :: formatted f n rest
    | '%' :: c :: rest =>
      match c with
      | 'p' => put f.path rest
      | 'f' => put (Program.lastPart f.path) rest
      | 'h' => put (frontOf f.path) rest
      | 's' => put (toString (sizeOf f.entry)) rest
      | 'm' => put (octal f.entry.mode) rest
      | 'M' => put (String.singleton (if kindLetter f.entry == 'f' then '-' else kindLetter f.entry) ++
          Program.Mode.letters f.entry.mode) rest
      | 'y' => put (String.singleton (kindLetter f.entry)) rest
      | 'd' => put (toString f.depth) rest
      | 'P' => put (String.ofList ((f.path.toList.drop f.start.length).dropWhile (· == '/'))) rest
      | 'H' => put f.start rest
      | 'l' => put (match f.entry with | .link target => Text.octetsOf target | _ => "") rest
      | 'u' | 'g' => put "root" rest
      | 'U' | 'G' => put "0" rest
      | '%' => put "%" rest
      | c => '%' :: c :: formatted f n rest
    | c :: rest => c :: formatted f n rest

def holds (b : Begun) (other : Starter) (f : Found) : Condition → Walking Bool
  | .always value => return value
  | .name whole folds pattern =>
    return Pattern.fits folds pattern (if whole then f.path else Program.lastPart f.path)
  | .expression e => do
    let cs := (Text.textOf f.path).toList.toArray
    return (e.find? cs (fun a b => a = 0 && b = cs.size) (cs.size + 2) 0).isSome
  | .kind letters => return letters.contains (kindLetter f.entry)
  | .size bound count unit => return bound.admits count ((sizeOf f.entry + unit - 1) / unit)
  | .age bound count => return bound.admits count 0
  | .empty => do
    let s ← getThe State
    return match f.entry with
      | .file content _ => content.size == 0
      | .directory _ => (s.system.files.names f.place).isEmpty
      | .link _ => false
  | .permission bound bits =>
    return match bound with
      | .exactly => f.entry.mode == bits
      | .more => f.entry.mode &&& bits == bits
      | .less => bits == 0 || f.entry.mode &&& bits != 0
  | .startable => return f.entry.mode &&& 0o111 != 0
  | .target pattern =>
    return match f.entry with
      | .link target => Pattern.fits false pattern (Text.octetsOf target)
      | _ => false
  | .tell format => do
    write 1 (String.ofList (formatted f (format.length + 1) format.toList))
    return true
  | .tellBare ending => do
    write 1 (f.path ++ ending)
    return true
  | .each words inside => do
    let holder := "\x7b\x7d"
    let shown := if inside then "./" ++ Program.lastPart f.path else f.path
    let words := words.map fun w => shown.intercalate (w.splitOn holder)
    let s ← getThe State
    if inside then modifyThe State fun s => { s with cwd := f.place.dropLast }
    let finish ← (other b.environment words : Act Finish)
    if inside then modifyThe State fun t => { t with cwd := s.cwd }
    match finish with
    | .exited n => return n == 0
    | .signalled _ => return false
    | .refused errno => do
      b.complain (Program.marked (words.headD "") ++ ": " ++ errno.text)
      return false
  | .together key _ => do
    modifyThe Walk fun w =>
      let before := (w.waiting.lookup key).getD []
      { w with waiting := (key, before ++ [f.path]) :: w.waiting.filter fun e => e.1 != key }
    return true
  | .delete => do
    let s ← getThe State
    let gone := match f.entry with
      | .directory _ => s.system.files.removeDirectory s.cwd (Text.textOf f.path)
      | _ => s.system.files.unlink s.cwd (Text.textOf f.path)
    match gone with
    | .ok files =>
      set { s with system := { s.system with files } }
      return true
    | .error errno =>
      if f.path == "." then return true
      b.complain ("cannot delete " ++ Program.marked f.path ++ ": " ++ errno.text)
      modifyThe Walk fun w => { w with status := 1 }
      return false
  | .prune => do
    modifyThe Walk fun w => { w with pruned := true }
    return true
  | .quit => do
    modifyThe Walk fun w => { w with stopped := true }
    return true
  | .negated c => do return !(← holds b other f c)
  | .both x y => do
    if !(← holds b other f x) || (← getThe Walk).stopped then return false
    else holds b other f y
  | .either x y => do
    if (← holds b other f x) || (← getThe Walk).stopped then return true
    else holds b other f y
  | .row x y => do
    let _ ← holds b other f x
    if (← getThe Walk).stopped then return false else holds b other f y

def below (g : Finding) (b : Begun) (other : Starter) (c : Condition) (start : String) :
    (fuel depth : Nat) → (path : String) → Walking Unit
  | 0, _, _ => return ()
  | n + 1, depth, path => do
    let s ← getThe State
    let follows := if depth = 0 then g.followsFirst else g.follows
    let seen := match s.system.files.stat s.cwd follows (Text.textOf path) with
      | .error .noEntry => if follows then s.system.files.stat s.cwd false (Text.textOf path) else .error .noEntry
      | seen => seen
    match seen with
    | .error errno => do
      b.complain (Program.marked path ++ ": " ++ errno.text)
      modifyThe Walk fun w => { w with status := 1 }
    | .ok (place, entry) => do
      let f : Found := ⟨path, start, depth, place, entry⟩
      let ask : Walking Unit := do
        if g.least ≤ depth then
          let _ ← holds b other f c
      modifyThe Walk fun w => { w with pruned := false }
      if !g.innerFirst then ask
      let w ← getThe Walk
      if !w.stopped && !(w.pruned && !g.innerFirst) && depth < g.most then
        match entry with
        | .directory _ =>
          for name in s.system.files.names place do
            if !(← getThe Walk).stopped then
              below g b other c start n (depth + 1) (Program.beneath path (Text.octetsOf name))
        | _ => pure ()
      if g.innerFirst && !(← getThe Walk).stopped then ask

/-- The programs of conditions that get files together. -/
def commands : Condition → List (Nat × List String)
  | .together key words => [(key, words)]
  | .negated c => commands c
  | .both a b | .either a b | .row a b => commands a ++ commands b
  | _ => []

end Finding

namespace Begun

/-- The words in front of conditions that say which links are followed. -/
def followOptions : List String → Finding → List String × Finding
  | "-L" :: rest, g => followOptions rest { g with follows := true, followsFirst := true }
  | "-H" :: rest, g => followOptions rest { g with follows := false, followsFirst := true }
  | "-P" :: rest, g => followOptions rest { g with follows := false, followsFirst := false }
  | "--" :: rest, g => (rest, g)
  | words, g => (words, g)

/-- The program that looks for files. -/
def find (b : Begun) (other : Starter) : Starting Finish := do
  let (words, g) := followOptions b.arguments ⟨false, false, 0, 1000, false⟩
  let isPath (w : String) : Bool :=
    !(w.startsWith "-" && w != "-") && w != "!" && w != "("
  let paths := words.takeWhile isPath
  let conditions := words.dropWhile isPath
  let state ← getThe State
  let stands (path : String) : Bool := (state.system.files.stat state.cwd true (Text.textOf path)).isOk
  let (read, s) := (ExceptT.run ConditionReader.all).run ⟨conditions, g, 0, none, "", stands⟩
  match read with
  | .error words => b.refuse words 1
  | .ok c =>
    let c := if c.isDeed then c else .both c (.tellBare "\n")
    let walk : Walking Unit := do
      for path in (if paths.isEmpty then ["."] else paths) do
        if !(← getThe Walk).stopped then s.finding.below b other c path 2000 0 path
      for (key, words) in Finding.commands c do
        let found := ((← getThe Walk).waiting.lookup key).getD []
        if !found.isEmpty then
          match ← (other b.environment (words ++ found) : Act Finish) with
          | .exited 0 => pure ()
          | .refused errno => do
            b.complain (Program.marked (words.headD "") ++ ": " ++ errno.text)
            modifyThe Walk fun w => { w with status := 1 }
          | _ => modifyThe Walk fun w => { w with status := 1 }
    let ((), after) ← (walk.run ⟨0, false, false, []⟩ : Act (Unit × Walk))
    return .exited after.status

end Begun

end Converge.Shell
