import Converge.Script.Literal
import Converge.Text.WordChar

/-!
# Lexemes of scripts

A script is cut into names, literals and signs. A line ends where no bracket is open; between
brackets, and after a backslash, it goes on in the next one. The first thing that is wrong ends the
cutting.
-/

namespace Converge.Script

inductive Lexeme where
  | name (s : String)
  | number (v : Value)
  | text (s : List Char)
  | bytes (b : List UInt8)
  | sign (s : String)
  | lineEnd
  /-- A line begins with blanks. -/
  | indent

/-- A lexeme and the line in which it begins. -/
structure Placed where
  lexeme : Lexeme
  line : Nat

/-- What is wrong with a script, and in which line if it is in one. -/
structure SyntaxFault where
  line : Option Nat
  cause : SyntaxCause
deriving DecidableEq, Repr

/-- Where the cutting stands. -/
structure Cutting where
  rest : List Char
  line : Nat
  /-- The open brackets with their lines, the innermost first. -/
  opened : List (Char × Nat)
  /-- Nothing but blanks stands before in this line, where no bracket is open. -/
  fresh : Bool

namespace Cutting

/-- What is wrong in the current line. -/
def fault (c : Cutting) (cause : SyntaxCause) : SyntaxFault := ⟨some c.line, cause⟩

def lastLine (c : Cutting) : Nat :=
  let breaks := (c.rest.filter (· == '\n')).length
  c.line + breaks - (if c.rest.getLast? = some '\n' then 1 else 0)

/-- A blank within a line. -/
def isGap (c : Char) : Bool := c == ' ' || c == '\t' || c == '\x0c'

/-- The bracket that closes another. -/
def closingOf (c : Char) : Char :=
  match c with
  | '(' => ')'
  | '[' => ']'
  | _ => '\x7d'

/-- The text between quotation marks, from after the first; `none` when no mark closes it. A
backslash keeps the character after it from closing the text. -/
def takeQuoted (mark : Char) (triple : Bool) : List Char → Option (List Char × List Char)
  | [] => none
  | '\\' :: c :: rest => do
    let (more, rest) ← takeQuoted mark triple rest
    return ('\\' :: c :: more, rest)
  | c :: rest =>
    if c = mark && (!triple || rest.take 2 == [mark, mark]) then
      some ([], if triple then rest.drop 2 else rest)
    else if c = '\n' && !triple then none
    else do
      let (more, rest) ← takeQuoted mark triple rest
      return (c :: more, rest)

/-- The letters that may stand before a quotation mark. -/
def quotePrefixes : List String := ["", "u", "b", "r", "br", "rb"]

/-- The literal between quotation marks at the front, after its letters. -/
def quoted (c : Cutting) (letters : String) (mark : Char) (rest : List Char) :
    Except SyntaxFault (Lexeme × Cutting) := do
  let triple := rest.take 2 == [mark, mark]
  let inner := { c with rest := if triple then rest.drop 2 else rest }
  match takeQuoted mark triple inner.rest with
  | none =>
    throw (c.fault (if triple then .openTripleQuote inner.lastLine else .openQuote c.line))
  | some (body, rest) =>
    let after := { c with rest, line := c.line + (body.filter (· == '\n')).length, fresh := false }
    let plain := letters.toList.contains 'r'
    let inLine {α : Type} (r : Except SyntaxCause α) : Except SyntaxFault α := r.mapError c.fault
    if letters.toList.contains 'b' then
      if body.any (128 ≤ ·.toNat) then throw (c.fault .byteCharacter)
      else if plain then return (.bytes (body.map fun ch => UInt8.ofNat ch.toNat), after)
      else return (.bytes (← inLine (decodeBytes (body.length + 1) 0 body)), after)
    else if plain then return (.text body, after)
    else return (.text (← inLine (decodeText (body.length + 1) 0 body)), after)

/-- A closing bracket fits the innermost open one. -/
def close (c : Cutting) (bracket : Char) : Except SyntaxFault Cutting :=
  match c.opened with
  | [] => .error (c.fault (.unmatched bracket))
  | (opening, line) :: others =>
    if closingOf opening = bracket then .ok { c with opened := others }
    else
      .error (c.fault
        (.mismatched bracket opening (if line = c.line then none else some line)))

/-- The next lexeme at the front, where no blank stands, and the cutting after it. -/
def next (c : Cutting) (ch : Char) (rest : List Char) : Except SyntaxFault (Lexeme × Cutting) := do
  let passed := { c with rest, fresh := false }
  if ch = '\'' ∨ ch = '"' then c.quoted "" ch rest
  else if ch.isDigit ∨ (ch = '.' ∧ rest.head?.any Char.isDigit) then do
    let (v, rest) ← (takeNumber (ch :: rest)).mapError c.fault
    return (.number v, { passed with rest })
  else if isNameStart ch then
    let name := (ch :: rest).takeWhile isNameChar
    let after := (ch :: rest).dropWhile isNameChar
    let letters := (String.ofList name).toLower
    match after with
    | mark :: body =>
      if (mark = '\'' ∨ mark = '"') ∧ quotePrefixes.contains letters then c.quoted letters mark body
      else named name after passed
    | [] => named name after passed
  else if ch = '(' ∨ ch = '[' ∨ ch = '\x7b' then
    return (.sign (String.singleton ch), { passed with opened := (ch, c.line) :: c.opened })
  else if ch = ')' ∨ ch = ']' ∨ ch = '\x7d' then
    return (.sign (String.singleton ch), { (← c.close ch) with rest, fresh := false })
  else if ch = '=' ∧ rest.head? = some '=' then
    return (.sign "==", { passed with rest := rest.drop 1 })
  else if ch.toNat < 32 ∨ ch.toNat = 127 then throw (c.fault (.character ch))
  else return (.sign (String.singleton ch), passed)
where
  /-- A name, all of whose characters can stand in one. -/
  named (name after : List Char) (passed : Cutting) : Except SyntaxFault (Lexeme × Cutting) :=
    match name.find? fun ch => !(Text.isWordChar ch) with
    | some ch => .error (c.fault (.character ch))
    | none => .ok (.name (String.ofList name), { passed with rest := after })

/-- The blanks at the front are passed; says whether a line begins with them. -/
def skipGaps (c : Cutting) : Bool × Cutting :=
  let gaps := c.rest.takeWhile isGap
  let rest := c.rest.dropWhile isGap
  let inset := c.fresh && ((gaps.reverse.takeWhile (· != '\x0c')).isEmpty == false)
  (inset, { c with rest })

/-- The lexemes of what is left, the brackets that stay open, and what is wrong. -/
def run : Nat → Cutting → List Placed × List (Char × Nat) × Option SyntaxFault
  | 0, c => ([], c.opened, none)
  | fuel + 1, c =>
    let (inset, c) := c.skipGaps
    let place (l : Lexeme) : Placed := ⟨l, c.line⟩
    let andThen (front : List Placed) (c : Cutting) :
        List Placed × List (Char × Nat) × Option SyntaxFault :=
      let (more, opened, fault) := run fuel c
      (front ++ more, opened, fault)
    match c.rest with
    | [] => (if c.fresh || !c.opened.isEmpty then [] else [place .lineEnd], c.opened, none)
    | '#' :: rest => andThen [] { c with rest := rest.dropWhile (· != '\n') }
    | '\n' :: rest =>
      let after := { c with rest, line := c.line + 1, fresh := c.opened.isEmpty }
      andThen (if c.fresh || !c.opened.isEmpty then [] else [place .lineEnd]) after
    | '\\' :: '\n' :: rest =>
      if rest.isEmpty && c.opened.isEmpty then ([], [], some (c.fault .textEnd))
      else andThen [] { c with rest, line := c.line + 1 }
    | ['\\'] => ([], c.opened, if c.opened.isEmpty then some (c.fault .textEnd) else none)
    | '\\' :: _ => ([], c.opened, some (c.fault .afterBackslash))
    | ch :: rest =>
      match c.next ch rest with
      | .error fault => ([], c.opened, some fault)
      | .ok (lexeme, after) => andThen ((if inset then [place .indent] else []) ++ [place lexeme]) after

end Cutting

/-- The lexemes of a text, the brackets that stay open at its end, and what is wrong. -/
def lexemes (text : String) : List Placed × List (Char × Nat) × Option SyntaxFault :=
  let chars := text.toList
  if chars.contains '\x00' then ([], [], some ⟨none, .nul⟩)
  else Cutting.run (2 * chars.length + 2) ⟨chars, 1, [], true⟩

end Converge.Script
