import Converge.Number.Decimal
import Converge.Text.Surrogate
import Converge.Text.Whole
import Converge.Value

/-!
# Literals of scripts

The numbers of a script, decimal or to the bases 2, 8 and 16, and what the escapes between quotation
marks stand for, in texts and in bytes.
-/

namespace Converge.Script

/-- What is wrong with the text of a script. -/
inductive SyntaxCause where
  | neverClosed (bracket : Char)
  | unmatched (bracket : Char)
  /-- A bracket closes one of another kind, which was opened in an earlier line if one is given. -/
  | mismatched (closing opening : Char) (line : Option Nat)
  /-- The last line of the text is given. -/
  | openQuote (last : Nat)
  | openTripleQuote (last : Nat)
  | afterBackslash
  | textEnd
  | character (c : Char)
  | indent
  | number (kind : String)
  | digit (d : Char) (kind : String)
  | leadingZero
  | longNumber (digits : Nat)
  /-- An escape between two places of a text means nothing. -/
  | escape (first last : Nat) (reason : String)
  | byteEscape (place : Nat)
  | byteCharacter
  | mixedTexts
  | positionalAfterNamed
  | repeatedName (name : String)
  | missingComma
  | missingColon
  | nul
  | other
deriving DecidableEq, Repr

/-- The wording of what is wrong. -/
def SyntaxCause.message : SyntaxCause → String
  | neverClosed c => "'" ++ String.singleton c ++ "' was never closed"
  | unmatched c => "unmatched '" ++ String.singleton c ++ "'"
  | mismatched closing opening line =>
    "closing parenthesis '" ++ String.singleton closing ++ "' does not match opening parenthesis '" ++
      String.singleton opening ++ "'" ++ ((line.map fun n => " on line " ++ toString n).getD "")
  | openQuote last => "unterminated string literal (detected at line " ++ toString last ++ ")"
  | openTripleQuote last =>
    "unterminated triple-quoted string literal (detected at line " ++ toString last ++ ")"
  | afterBackslash => "unexpected character after line continuation character"
  | textEnd => "unexpected EOF while parsing"
  | character c =>
    let code := "U+" ++ String.ofList ((Text.hexDigits (if c.toNat < 0x10000 then 4 else 6)
      c.toNat).map Char.toUpper)
    if Text.isPrintable c then "invalid character '" ++ String.singleton c ++ "' (" ++ code ++ ")"
    else "invalid non-printable character " ++ code
  | indent => "unexpected indent"
  | number kind => "invalid " ++ kind ++ " literal"
  | digit d kind => "invalid digit '" ++ String.singleton d ++ "' in " ++ kind ++ " literal"
  | leadingZero =>
    "leading zeros in decimal integer literals are not permitted; " ++
      "use an 0o prefix for octal integers"
  | longNumber digits =>
    (Text.WholeFault.tooLong digits).message ++
      " - Consider hexadecimal for huge integer literals to avoid decimal conversion limits."
  | escape first last reason =>
    "(unicode error) 'unicodeescape' codec can't decode bytes in position " ++ toString first ++ "-" ++
      toString last ++ ": " ++ reason
  | byteEscape place => "(value error) invalid \\x escape at position " ++ toString place
  | byteCharacter => "bytes can only contain ASCII literal characters"
  | mixedTexts => "cannot mix bytes and nonbytes literals"
  | positionalAfterNamed => "positional argument follows keyword argument"
  | repeatedName name => "keyword argument repeated: " ++ name
  | missingComma => "invalid syntax. Perhaps you forgot a comma?"
  | missingColon => "':' expected after dictionary key"
  | nul => "source code string cannot contain null bytes"
  | other => "invalid syntax"

/-! ## Numbers -/

def isNameStart (c : Char) : Bool := c.isAlpha || c == '_' || 128 ≤ c.toNat

def isNameChar (c : Char) : Bool := isNameStart c || c.isDigit

/-- A number of a kind ends before what follows: no underscore and no name begins there. -/
def endNumber (kind : String) (v : Value) (rest : List Char) :
    Except SyntaxCause (Value × List Char) :=
  if rest.head?.any isNameStart then .error (.number kind) else .ok (v, rest)

/-- A number to a base, after its mark. -/
def takeBased (base : Nat) (kind : String) (s : List Char) : Except SyntaxCause (Value × List Char) :=
  let (digits, rest) := Text.takeDigits base (match s with
    | '_' :: rest => rest
    | s => s)
  match rest with
  | c :: _ => if base < 10 && c.isDigit then .error (.digit c kind) else finish digits rest
  | [] => finish digits rest
where
  /-- The number of the digits, if there are any. -/
  finish (digits : List Nat) (rest : List Char) : Except SyntaxCause (Value × List Char) :=
    if digits.isEmpty then .error (.number kind)
    else endNumber kind (.int (Text.ofDigits base digits)) rest

/-- The exponent at the front is passed, if there is one; it has digits. -/
def dropExponent (s : List Char) : Except SyntaxCause (Bool × List Char) :=
  match s with
  | c :: rest =>
    if c = 'e' ∨ c = 'E' then
      let (digits, after) := Text.takeDigits 10 (Text.takeSign rest).2
      if digits.isEmpty then .error (.number "decimal") else .ok (true, after)
    else .ok (false, s)
  | [] => .ok (false, s)

/-- A decimal number: digits with a fraction and an exponent, or without. -/
def takeDecimal (s : List Char) : Except SyntaxCause (Value × List Char) := do
  let (whole, rest) := Text.takeDigits 10 s
  let (pointed, rest) := match rest with
    | '.' :: rest => (true, (Text.takeDigits 10 rest).2)
    | rest => (false, rest)
  let (raised, rest) ← dropExponent rest
  if pointed || raised then
    match Double.read? (String.ofList (s.take (s.length - rest.length))) with
    | some d => endNumber "decimal" (.float d) rest
    | none => throw (.number "decimal")
  else do
    let made ← endNumber "decimal" (.int (Text.ofDigits 10 whole)) rest
    if whole.head? = some 0 ∧ whole.any (· != 0) then throw .leadingZero
    else if Text.maxDigits < whole.length then throw (.longNumber whole.length)
    else return made

/-- A number at the front, and what follows it. -/
def takeNumber (s : List Char) : Except SyntaxCause (Value × List Char) :=
  match s with
  | '0' :: mark :: rest =>
    if mark = 'x' ∨ mark = 'X' then takeBased 16 "hexadecimal" rest
    else if mark = 'o' ∨ mark = 'O' then takeBased 8 "octal" rest
    else if mark = 'b' ∨ mark = 'B' then takeBased 2 "binary" rest
    else takeDecimal s
  | s => takeDecimal s

/-! ## Escapes -/

/-- The number of a character that a letter after a backslash stands for. -/
def letterEscape? (c : Char) : Option Nat :=
  match c with
  | '\\' => some 92
  | '\'' => some 39
  | '"' => some 34
  | 'a' => some 7
  | 'b' => some 8
  | 'f' => some 12
  | 'n' => some 10
  | 'r' => some 13
  | 't' => some 9
  | 'v' => some 11
  | _ => none

/-- Up to three octal digits at the front: their number and how many they are. -/
def octalEscape (s : List Char) : Nat × Nat :=
  let digits := ((s.take 3).takeWhile fun c => '0' ≤ c && c ≤ '7').filterMap (Text.digitOf? 8)
  (Text.ofDigits 8 digits, digits.length)

/-- How many hexadecimal digits follow a letter after a backslash, and what is said when fewer do. -/
def hexEscape? (c : Char) : Option (Nat × String) :=
  match c with
  | 'x' => some (2, "truncated \\xXX escape")
  | 'u' => some (4, "truncated \\uXXXX escape")
  | 'U' => some (8, "truncated \\UXXXXXXXX escape")
  | _ => none

/-- How many places a character takes in a text whose escapes are counted. -/
def placesOf (c : Char) : Nat := if c.toNat < 128 then 1 else 10

/-- The character with a name in braces, after its mark: no name is known. -/
def namedEscape (place : Nat) (s : List Char) : SyntaxCause :=
  let name := (s.drop 1).takeWhile (· != '\x7d')
  if s.head? != some '\x7b' then .escape place (place + 1) "malformed \\N character escape"
  else if name.isEmpty || (s.drop (1 + name.length)).isEmpty then
    .escape place (place + 2 + name.length) "malformed \\N character escape"
  else .escape place (place + 3 + name.length) "unknown Unicode character name"

/-- The characters of a text between quotation marks; `place` counts those before. -/
def decodeText : (fuel place : Nat) → List Char → Except SyntaxCause (List Char)
  | 0, _, _ => .ok []
  | _ + 1, _, [] => .ok []
  | fuel + 1, place, '\\' :: c :: rest =>
    let andThen (made : List Char) (passed : Nat) : Except SyntaxCause (List Char) := do
      return made ++ (← decodeText fuel (place + 1 + passed) ((c :: rest).drop passed))
    if c = '\n' then andThen [] 1
    else if let some code := letterEscape? c then andThen [Text.charOf code] 1
    else if let some (width, reason) := hexEscape? c then
      let digits := ((rest.take width).map (Text.digitOf? 16)).takeWhile Option.isSome
      let code := Text.ofDigits 16 (digits.filterMap id)
      if digits.length < width then .error (.escape place (place + 1 + digits.length) reason)
      else if 0x10FFFF < code then .error (.escape place (place + 9) "illegal Unicode character")
      else andThen [Text.charOf code] (1 + width)
    else if c = 'N' then .error (namedEscape place rest)
    else
      let (code, count) := octalEscape (c :: rest)
      if count = 0 then do
        let more ← decodeText fuel (place + (if c.toNat < 128 then 2 else 16)) rest
        return '\\' :: c :: more
      else andThen [Text.charOf code] count
  | fuel + 1, place, c :: rest => do
    return c :: (← decodeText fuel (place + placesOf c) rest)

/-- The bytes between quotation marks; `place` counts the characters before. -/
def decodeBytes : (fuel place : Nat) → List Char → Except SyntaxCause (List UInt8)
  | 0, _, _ => .ok []
  | _ + 1, _, [] => .ok []
  | fuel + 1, place, '\\' :: c :: rest =>
    let andThen (made : List UInt8) (passed : Nat) : Except SyntaxCause (List UInt8) := do
      return made ++ (← decodeBytes fuel (place + 1 + passed) ((c :: rest).drop passed))
    if c = '\n' then andThen [] 1
    else if let some code := letterEscape? c then andThen [UInt8.ofNat code] 1
    else if c = 'x' then
      let digits := ((rest.take 2).map (Text.digitOf? 16)).takeWhile Option.isSome
      if digits.length < 2 then .error (.byteEscape place)
      else andThen [UInt8.ofNat (Text.ofDigits 16 (digits.filterMap id))] 3
    else
      let (code, count) := octalEscape (c :: rest)
      if count = 0 then andThen [92, UInt8.ofNat c.toNat] 1 else andThen [UInt8.ofNat code] count
  | fuel + 1, place, c :: rest => do
    return UInt8.ofNat c.toNat :: (← decodeBytes fuel (place + 1) rest)

end Converge.Script
