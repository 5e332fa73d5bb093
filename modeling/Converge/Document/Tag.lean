import Converge.Text.Digit

/-!
# Tags

The tag of a node says what kind of value it stands for. A scalar that is written without one has
the tag of the first form that its text fits, and is text when it fits none.
-/

namespace Converge.Document

/-- What kind of value a node stands for. -/
inductive Tag where
  | null
  | truth
  | whole
  | fraction
  | binary
  | time
  | orderedMap
  | pairs
  | set
  | text
  | sequence
  | mapping
  | merge
  | value
  | other (name : String)
deriving DecidableEq, Repr

/-- What the names of the common tags begin with. -/
def tagRoot : String := "tag:yaml.org,2002:"

/-- The short names of the common tags. -/
def tagNames : List (String × Tag) :=
  [("null", .null), ("bool", .truth), ("int", .whole), ("float", .fraction), ("binary", .binary),
    ("timestamp", .time), ("omap", .orderedMap), ("pairs", .pairs), ("set", .set), ("str", .text),
    ("seq", .sequence), ("map", .mapping), ("merge", .merge), ("value", .value)]

def Tag.ofName (name : String) : Tag :=
  match tagNames.find? fun e => tagRoot ++ e.1 == name with
  | some e => e.2
  | none => .other name

/-! ## The forms of plain scalars -/

/-- The texts that stand for a truth value, and it. -/
def truthWords : List (String × Bool) :=
  [("yes", true), ("no", false), ("true", true), ("false", false), ("on", true), ("off", false)]

/-- A word in small letters, in capitals or with an initial capital. -/
def inThreeCases (word : String) : List String :=
  [word, word.capitalize, String.ofList (word.toList.map Char.toUpper)]

/-- The text is a word for a truth value. -/
def isTruth (s : String) : Bool :=
  truthWords.any fun e => (inThreeCases e.1).contains s

/-- The text stands for nothing. -/
def isNull (s : String) : Bool :=
  s == "" || s == "~" || (inThreeCases "null").contains s

def isDigitOrMark (c : Char) : Bool := c.isDigit || c == '_'

/-- A sign at the front is passed. -/
def afterSign (s : List Char) : List Char := (Text.takeSign s).2

/-- One or more parts after a colon, each of one or two digits below 60, and what follows them. -/
def sixtieths : (fuel : Nat) → List Char → Option (List Char)
  | 0, _ => none
  | fuel + 1, s =>
    let after (rest : List Char) : Option (List Char) :=
      match sixtieths fuel rest with
      | some rest => some rest
      | none => some rest
    match s with
    | ':' :: a :: b :: rest =>
      if '0' ≤ a && a ≤ '5' && b.isDigit then after rest
      else if a.isDigit then after (b :: rest)
      else none
    | [':', a] => if a.isDigit then some [] else none
    | _ => none

/-- The text is a whole number: binary, octal, decimal, hexadecimal or in parts to the base 60. -/
def isWhole (s : String) : Bool :=
  match afterSign s.toList with
  | ['0'] => true
  | '0' :: 'b' :: rest => !rest.isEmpty && rest.all fun c => c == '0' || c == '1' || c == '_'
  | '0' :: 'x' :: rest =>
    !rest.isEmpty && rest.all fun c => (Text.digitOf? 16 c).isSome || c == '_'
  | '0' :: rest => rest.all fun c => ('0' ≤ c && c ≤ '7') || c == '_'
  | c :: rest =>
    c.isDigit &&
      (rest.all isDigitOrMark || sixtieths rest.length (rest.dropWhile isDigitOrMark) == some [])
  | [] => false

/-- An exponent with its sign, or nothing. -/
def isExponent (s : List Char) : Bool :=
  match s with
  | [] => true
  | e :: sign :: digits =>
    (e == 'e' || e == 'E') && (sign == '+' || sign == '-') && !digits.isEmpty &&
      digits.all Char.isDigit
  | _ => false

/-- The text is a number with a point, which may be infinite, or says that it is none. -/
def isFraction (s : String) : Bool :=
  let chars := s.toList
  let body := afterSign chars
  let unsigned := body.length == chars.length
  let rest := body.dropWhile isDigitOrMark
  let word := String.ofList (body.drop 1)
  match body with
  | '.' :: d :: _ =>
    (unsigned && d.isDigit && isExponent ((body.drop 1).dropWhile isDigitOrMark)) ||
      ["inf", "Inf", "INF"].contains word || (unsigned && ["nan", "NaN", "NAN"].contains word)
  | d :: _ =>
    d.isDigit && match rest with
      | '.' :: rest => isExponent (rest.dropWhile isDigitOrMark)
      | _ => match sixtieths body.length rest with
        | some ('.' :: rest) => rest.all isDigitOrMark
        | _ => false
  | [] => false

/-- So many digits at the front, and what follows them. -/
def takeExactly (count : Nat) (s : List Char) : Option (Nat × List Char) :=
  let digits := s.take count
  if digits.length = count ∧ digits.all Char.isDigit then
    some (Text.ofDigits 10 (digits.filterMap (Text.digitOf? 10)), s.drop count)
  else none

/-- Two digits at the front or one, and what follows them. -/
def takeOneOrTwo (s : List Char) : Option (Nat × List Char) :=
  match takeExactly 2 s with
  | some found => some found
  | none => takeExactly 1 s

/-- A character at the front is passed. -/
def takeMark (mark : Char) (s : List Char) : Option (List Char) :=
  match s with
  | c :: rest => if c = mark then some rest else none
  | [] => none

/-- A time of day and the offset of its zone, as they are written. -/
structure WrittenTime where
  hour : Nat
  minute : Nat
  second : Nat
  fraction : List Nat
  /-- The seconds of the offset, none without a zone. -/
  offset : Option Int

def takeZone (s : List Char) : Option (Option Int) :=
  match s with
  | [] => some none
  | _ =>
    match s.dropWhile fun c => c == ' ' || c == '\t' with
    | ['Z'] => some (some 0)
    | sign :: rest => do
      if sign ≠ '+' ∧ sign ≠ '-' then none
      let (hours, rest) ← takeOneOrTwo rest
      let minutes ← match rest with
        | [] => some 0
        | ':' :: rest => do
          let (minutes, rest) ← takeExactly 2 rest
          if rest.isEmpty then some minutes else none
        | _ => none
      let seconds : Int := hours * 3600 + minutes * 60
      return some (if sign = '-' then -seconds else seconds)
    | [] => none

/-- A time of day and its zone. -/
def takeTime (s : List Char) : Option WrittenTime := do
  let (hour, s) ← takeOneOrTwo s
  let (minute, s) ← takeExactly 2 (← takeMark ':' s)
  let (second, s) ← takeExactly 2 (← takeMark ':' s)
  let (fraction, s) := match s with
    | '.' :: rest => ((rest.takeWhile Char.isDigit).filterMap (Text.digitOf? 10), rest.dropWhile Char.isDigit)
    | _ => ([], s)
  let offset ← takeZone s
  return ⟨hour, minute, second, fraction, offset⟩

/-- The characters of a text without a line feed at its end, which does not count in its form. -/
def formChars (s : String) : List Char :=
  let chars := s.toList
  if chars.getLast? = some '\n' then chars.dropLast else chars

/-- A year, a month and a day, and the time that may follow them. -/
def takeTimestamp (s : List Char) : Option (Nat × Nat × Nat × Option WrittenTime) := do
  let (year, s) ← takeExactly 4 s
  let (month, s) ← takeOneOrTwo (← takeMark '-' s)
  let (day, s) ← takeOneOrTwo (← takeMark '-' s)
  match s with
  | [] => return (year, month, day, none)
  | c :: rest =>
    if c = 'T' ∨ c = 't' then
      let time ← takeTime rest
      return (year, month, day, some time)
    else if c = ' ' ∨ c = '\t' then
      let time ← takeTime (rest.dropWhile fun c => c == ' ' || c == '\t')
      return (year, month, day, some time)
    else none

/-- The text is a date of ten characters, or a date and a time. -/
def isTime (s : String) : Bool :=
  match takeTimestamp s.toList with
  | none => false
  | some (_, _, _, some _) => true
  | some (_, _, _, none) => s.length == 10

def Tag.ofForm (s : String) : Tag :=
  if isTruth s then .truth
  else if isFraction s then .fraction
  else if isWhole s then .whole
  else if s == "<<" then .merge
  else if isNull s then .null
  else if isTime s then .time
  else if s == "=" then .value
  else if s == "!" || s == "&" || s == "*" then .other (tagRoot ++ "yaml")
  else .text

/-- The tag of a plain scalar. A lone line feed is text. -/
def Tag.ofPlain (s : String) : Tag :=
  if s == "\n" then .text else .ofForm (String.ofList (formChars s))

end Converge.Document
