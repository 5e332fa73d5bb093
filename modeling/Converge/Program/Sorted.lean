import Converge.Program.Lines

/-!
# Lines in order

The program that puts lines in order, by all of a line or by keys in it. A key is a part of a line
with letters for the order of such parts; lines that all keys take for equal are put in the order of
their bytes.
-/

namespace Converge.Program

open Job

/-! ## Orders -/

def isFieldBlank (c : Char) : Bool := c == ' ' || c == '\t' || c == '\n'

/-- The order of two values under a test for the lesser. -/
def orderBy {α : Type} (isLess : α → α → Bool) (a b : α) : Ordering :=
  if isLess a b then .lt else if isLess b a then .gt else .eq

def bytesOrder (a b : List Char) : Ordering := orderBy (fun a b => decide (a < b)) a b

/-- A decimal number: its digits with a sign, and how many of them stand behind the point. -/
structure Decimals where
  units : Int
  places : Nat

def Decimals.order (a b : Decimals) : Ordering :=
  let places := max a.places b.places
  let scaled (d : Decimals) : Int := d.units * (Nat.pow 10 (places - d.places) : Nat)
  orderBy (fun x y => decide (x < y)) (scaled a) (scaled b)

/-- The decimal number at the front of a text, zero where there is none, and what follows. -/
def leadingDecimals (cs : List Char) : Decimals × List Char :=
  let (negative, body) : Bool × List Char := match cs.dropWhile isFieldBlank with
    | '-' :: rest => (true, rest)
    | rest => (false, rest)
  let (whole, rest) := takePlainDigits 10 body
  let (fraction, rest) := match rest with
    | '.' :: rest => takePlainDigits 10 rest
    | rest => ([], rest)
  let n : Int := Text.ofDigits 10 (whole ++ fraction)
  (⟨if negative then -n else n, fraction.length⟩, rest)

/-- The power of a thousand for which a letter stands, the number having the sign. -/
def unitOf (d : Decimals) (rest : List Char) : Int :=
  let rank : Int := match rest with
    | c :: _ => (("KMGTPEZYRQ".toList.idxOf? (if c == 'k' then 'K' else c)).map fun i => (i : Int) + 1).getD 0
    | [] => 0
  if d.units < 0 then -rank else if d.units = 0 then 0 else rank

/-- The order of numbers with letters for powers of a thousand. -/
def humanOrder (a b : List Char) : Ordering :=
  let (x, restX) := leadingDecimals a
  let (y, restY) := leadingDecimals b
  match orderBy (fun m n : Int => decide (m < n)) (unitOf x restX) (unitOf y restY) with
  | .eq => x.order y
  | found => found

/-- The number of the month whose name begins a text, zero where none does. -/
def monthOf (cs : List Char) : Nat :=
  let name := ((cs.dropWhile isFieldBlank).take 3).map Char.toUpper
  let names := ["JAN", "FEB", "MAR", "APR", "MAY", "JUN", "JUL", "AUG", "SEP", "OCT", "NOV", "DEC"]
  ((names.idxOf? (String.ofList name)).map (· + 1)).getD 0

/-- The order of real numbers, in front of which stands what is none. -/
def realOrder (a b : List Char) : Ordering :=
  let value (cs : List Char) : Nat × Int × Nat := match (Real.take? 64 cs).1 with
    | none => (0, 0, 1)
    | some (.notNumber _) => (1, 0, 1)
    | some (.infinite true) => (2, 0, 1)
    | some (.finite negative num den) => (3, if negative then -(num : Int) else num, den)
    | some (.infinite false) => (4, 0, 1)
  let (kindA, numA, denA) := value a
  let (kindB, numB, denB) := value b
  match orderBy (fun m n : Nat => decide (m < n)) kindA kindB with
  | .eq => orderBy (fun m n : Int => decide (m < n)) (numA * denB) (numB * denA)
  | found => found

/-- The rank of a character in the order of versions; the end of a text ranks low. -/
def versionRank : List Char → Int
  | [] => -1
  | c :: _ =>
    if c.isDigit then 0 else if c.isAlpha then c.toNat else if c == '~' then -2 else c.toNat + 256

/-- The order of versions: rows of digits count as numbers, letters come before other signs. -/
def versionOrder : (fuel : Nat) → List Char → List Char → Ordering
  | 0, _, _ => .eq
  | _, [], [] => .eq
  | fuel + 1, a, b =>
    let isText : List Char → Bool
      | c :: _ => !c.isDigit
      | [] => false
    if isText a || isText b then
      match orderBy (fun m n : Int => decide (m < n)) (versionRank a) (versionRank b) with
      | .eq => versionOrder fuel (a.drop 1) (b.drop 1)
      | found => found
    else
      let (m, restA) := takePlainDigits 10 a
      let (n, restB) := takePlainDigits 10 b
      match orderBy (fun m n : Nat => decide (m < n)) (Text.ofDigits 10 m) (Text.ofDigits 10 n) with
      | .eq => versionOrder fuel restA restB
      | found => found

/-- A name without the endings that begin with points and letters. -/
def withoutEndings (cs : List Char) : List Char :=
  let isPart (part : List Char) : Bool := match part with
    | c :: rest => (c.isAlpha || c == '~') && rest.all fun c => c.isAlphanum || c == '~'
    | [] => false
  match between '.' cs with
  | [] => cs
  | first :: parts =>
    let kept := (parts.reverse.dropWhile isPart).reverse
    ['.'].intercalate (first :: kept)

def nameOrder (a b : List Char) : Ordering :=
  let fuel := a.length + b.length + 2
  match versionOrder fuel (withoutEndings a) (withoutEndings b) with
  | .eq => versionOrder fuel a b
  | found => found

/-- Which of two texts comes first under letters. -/
def compareUnder (letters : List Char) (a b : List Char) : Ordering :=
  let has (c : Char) : Bool := letters.contains c
  let shown (cs : List Char) : List Char :=
    let cs := if has 'd' then cs.filter fun c => c.isAlphanum || isFieldBlank c else cs
    let cs := if has 'i' then cs.filter fun c => !isHidden c else cs
    if has 'f' then cs.map Char.toUpper else cs
  let found :=
    if has 'n' then (leadingDecimals a).1.order (leadingDecimals b).1
    else if has 'h' then humanOrder a b
    else if has 'g' then realOrder a b
    else if has 'M' then orderBy (fun m n : Nat => decide (m < n)) (monthOf a) (monthOf b)
    else if has 'V' then nameOrder (shown a) (shown b)
    else bytesOrder (shown a) (shown b)
  if has 'r' then found.swap else found

/-! ## Keys -/

/-- A place in a line: a field and a character in it, both from 1; character 0 is all of the field.
-/
structure KeyEnd where
  field : Nat
  char : Nat
  skipsBlanks : Bool

/-- The part of a line by which it is put in order. -/
structure Key where
  first : KeyEnd
  last : Option KeyEnd
  letters : List Char

/-- What is left of a line behind so many fields; `inside` says that something of the next field
counts, so that the separator in front of it does not. -/
def behindFields (separator : Option Char) (inside : Bool) : Nat → List Char → List Char
  | 0, cs => cs
  | n + 1, cs =>
    match separator with
    | some mark =>
      match cs.dropWhile (· ≠ mark) with
      | _ :: rest => if n = 0 && !inside then mark :: rest else behindFields separator inside n rest
      | [] => []
    | none => behindFields separator inside n ((cs.dropWhile isFieldBlank).dropWhile fun c => !isFieldBlank c)

/-- What is left of a line from the first place of a key on. -/
def KeyEnd.begin (k : KeyEnd) (separator : Option Char) (line : List Char) : List Char :=
  let rest := behindFields separator true (k.field - 1) line
  let rest := if k.skipsBlanks then rest.dropWhile isFieldBlank else rest
  rest.drop (k.char - 1)

/-- What is left of a line behind the last place of a key. -/
def KeyEnd.finish (k : KeyEnd) (separator : Option Char) (line : List Char) : List Char :=
  if k.char = 0 then behindFields separator false k.field line
  else
    let rest := behindFields separator true (k.field - 1) line
    let rest := if k.skipsBlanks then rest.dropWhile isFieldBlank else rest
    rest.drop k.char

def Key.part (k : Key) (separator : Option Char) (line : List Char) : List Char :=
  let front := k.first.begin separator line
  match k.last with
  | none => front
  | some last => front.take (front.length - (last.finish separator line).length)

/-- The key that a word writes, or what is wrong with it. -/
def keyOf (word : String) : Except String Key :=
  let count (words : String) (cs : List Char) : Except String (Nat × List Char) :=
    match takePlainDigits 10 cs with
    | ([], _) => .error (words ++ ": invalid count at start of " ++ marked (String.ofList cs))
    | (ds, rest) => .ok (Text.ofDigits 10 ds, rest)
  let bad {α : Type} (words : String) : Except String α :=
    .error (words ++ ": invalid field specification " ++ marked word)
  let isLetter (c : Char) : Bool := "bdfghiMnRrV".contains c
  do
    let (field, rest) ← count "invalid number at field start" word.toList
    if field = 0 then bad "field number is zero"
    let (char, rest) ← match rest with
      | '.' :: rest => count "invalid number after '.'" rest
      | rest => pure (1, rest)
    if char = 0 then bad "character offset is zero"
    let letters := rest.takeWhile isLetter
    let first : KeyEnd := ⟨field, char, letters.contains 'b'⟩
    match rest.drop letters.length with
    | [] => return ⟨first, none, letters⟩
    | ',' :: rest =>
      let (field, rest) ← count "invalid number after ','" rest
      if field = 0 then bad "field number is zero"
      let (char, rest) ← match rest with
        | '.' :: rest => count "invalid number after '.'" rest
        | rest => pure (0, rest)
      let more := rest.takeWhile isLetter
      if !(rest.drop more.length).isEmpty then bad "stray character in field spec"
      return ⟨first, some ⟨field, char, more.contains 'b'⟩, letters ++ more⟩
    | _ => bad "stray character in field spec"

/-! ## Putting in order -/

/-- How lines are put in order. -/
structure Sorting where
  separator : Option Char
  keys : List Key
  letters : List Char
  stable : Bool

/-- A key with the letters that count for all keys, where it has none of its own. -/
def Key.completed (k : Key) (letters : List Char) : Key :=
  if k.letters.isEmpty then
    let skips := letters.contains 'b'
    { first := { k.first with skipsBlanks := skips }
      last := k.last.map fun e => { e with skipsBlanks := skips }, letters }
  else k

/-- Which of two lines comes first by the keys. -/
def Sorting.compare (s : Sorting) (a b : List Char) : Ordering :=
  let whole : Key := ⟨⟨1, 1, s.letters.contains 'b'⟩, none, s.letters⟩
  let keys := if s.keys.isEmpty then [whole] else s.keys.map fun k => k.completed s.letters
  (keys.findSome? fun k =>
    match compareUnder k.letters (k.part s.separator a) (k.part s.separator b) with
    | .eq => none
    | found => some found).getD .eq

/-- Which of two lines comes first, all of them counting at last. -/
def Sorting.isBefore (s : Sorting) (a b : List Char) : Bool :=
  match s.compare a b with
  | .lt => true
  | .gt => false
  | .eq =>
    let found := bytesOrder a b
    s.stable || (if s.letters.contains 'r' then found.swap else found) != .gt

/-- The lines of which none equals the one before it. -/
def withoutEquals (same : List Char → List Char → Bool) : List (List Char) → List (List Char)
  | a :: b :: rest =>
    if same a b then withoutEquals same (a :: rest) else a :: withoutEquals same (b :: rest)
  | lines => lines

/-- The lines of texts that end with a mark, the last perhaps without it. -/
def endedParts (mark : Char) (text : String) : List (List Char) :=
  let parts := between mark text.toList
  if parts.getLastD [] == [] then parts.dropLast else parts

/-- The character that separates fields, or what is wrong with the word for it. -/
def separatorOf (word : String) : Except String Char :=
  match word.toList with
  | [] => .error "empty tab"
  | [c] => .ok c
  | ['\\', '0'] => .ok '\x00'
  | _ => .error ("multi-character tab " ++ marked word)

/-- The first line that is not in order behind the one before it, with its number. -/
def Sorting.disorder (s : Sorting) (unique : Bool) (lines : List (List Char)) : Option (Nat × List Char) :=
  let isBad (a b : List Char) : Bool :=
    if unique then s.compare a b != .lt else s.compare a b == .gt || !s.isBefore a b
  (((lines.zip (lines.drop 1)).zipIdx.find? fun p => isBad p.1.1 p.1.2).map fun p => (p.2 + 2, p.1.2))

/-- The program that puts lines in order. -/
def sort (arguments : List String) : Job Unit := do
  let (given, paths) ← options
    ([.value 'k' "key", .value 't' "field-separator", .value 'o' "output", .flag 'u' "unique",
      .flag 'c', .onlyLong 'c' "check" .optional, .flag 'C', .flag 's' "stable", .flag 'm' "merge",
      .flag 'z' "zero-terminated", .value 'S' "buffer-size", .value 'T' "temporary-directory",
      .onlyLong 'p' "parallel" .required, .onlyLong '~' "sort" .required] ++
      [('n', "numeric-sort"), ('r', "reverse"), ('f', "ignore-case"), ('b', "ignore-leading-blanks"),
        ('d', "dictionary-order"), ('g', "general-numeric-sort"), ('h', "human-numeric-sort"),
        ('V', "version-sort"), ('i', "ignore-nonprinting"), ('M', "month-sort"),
        ('R', "random-sort")].map fun f => .flag f.1 f.2)
    arguments 2
  let letters := (given.map (·.key)).filter fun c => "nrfbdghViM".contains c
  let mut keys : List Key := []
  let mut separator : Option Char := none
  for g in given do
    match g.key, g.value with
    | 'k', some word =>
      match keyOf word with
      | .ok k => keys := keys ++ [k]
      | .error words => refuse words 2
    | 't', some word =>
      match separatorOf word with
      | .ok c => separator := some c
      | .error words => refuse words 2
    | _, _ => pure ()
  let unique := isGiven given 'u'
  let s : Sorting := ⟨separator, keys, letters, unique || isGiven given 's'⟩
  let mark := if isGiven given 'z' then '\x00' else '\n'
  let quiet := isGiven given 'C' || valueOf given 'c' == some "quiet" || valueOf given 'c' == some "silent"
  let checks := isGiven given 'c' || quiet
  if checks && 1 < paths.length then
    refuse ("extra operand " ++ quotedName ((paths.drop 1).headD "") ++ " not allowed with -" ++
      (if quiet then "C" else "c")) 2
  let mut inputs : List (List (List Char)) := []
  for path in inputsOf paths do
    match ← source path with
    | .ok text => inputs := inputs ++ [endedParts mark text]
    | .error .isDirectory => refuse ("read failed: " ++ headName path ++ ": Is a directory") 2
    | .error errno => refuse ("cannot read: " ++ headName path ++ ": " ++ errno.text) 2
  if checks then
    match s.disorder unique inputs.flatten with
    | none => return ()
    | some (number, line) =>
      if !quiet then
        complain (paths.headD "-" ++ ":" ++ toString number ++ ": disorder: " ++ String.ofList line)
      throw 1
  let sorted :=
    if isGiven given 'm' then inputs.foldl (fun all lines => List.merge all lines s.isBefore) []
    else inputs.flatten.mergeSort s.isBefore
  let kept := if unique then withoutEquals (fun a b => s.compare a b == .eq) sorted else sorted
  let text := String.join (kept.map fun line => String.ofList (line ++ [mark]))
  match valueOf given 'o' with
  | none => say text
  | some path => match ← store path text with
    | .ok () => return ()
    | .error errno => refuse ("open failed: " ++ headName path ++ ": " ++ errno.text) 2

end Converge.Program
