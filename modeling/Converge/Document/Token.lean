import Converge.Document.Property
import Converge.Document.Scalar

/-!
# Tokens

The tokens of a document. Indentation becomes tokens of its own: the start of a block at the first
entry of a deeper column, and its end where the column is left. A scalar, a name or a bracket is
known for a key only when the colon after it is met, on the same line and within 1024 characters;
the token that says so is then put in before it.
-/

namespace Converge.Document

inductive Token where
  | directive (d : Directive)
  | documentStart
  | documentEnd
  | textEnd
  | sequenceStart
  | mappingStart
  | blockEnd
  | flowSequenceStart
  | flowSequenceEnd
  | flowMappingStart
  | flowMappingEnd
  | blockEntry
  | flowEntry
  | key
  | value
  | reference (name : String)
  | anchor (name : String)
  | tag (t : WrittenTag)
  | scalar (text : String) (plain : Bool)
deriving DecidableEq, Repr

/-- A place where a key may have begun. -/
structure KeyPlace where
  /-- The number of the token that would be the key. -/
  number : Nat
  /-- Nothing but a key can stand here. -/
  required : Bool
  index : Nat
  line : Nat
  column : Nat

/-- How far a text has been cut into tokens. -/
structure Scan where
  cursor : Cursor
  /-- The column of the innermost block, -1 outside of all. -/
  indent : Int
  /-- The columns of the blocks around it. -/
  outer : List Int
  /-- How many brackets are open. -/
  depth : Nat
  keyAllowed : Bool
  /-- The last place for a key at each depth of brackets that has one. -/
  places : List (Nat × KeyPlace)
  /-- The tokens so far, in reverse. -/
  tokens : List Token

namespace Scan

/-- The state before a text. -/
def start (s : List Char) : Scan := ⟨.start s, -1, [], 0, true, [], []⟩

/-- The state with one more token. -/
def push (s : Scan) (t : Token) : Scan := { s with tokens := t :: s.tokens }

/-- The state with tokens put in before the token of a number. -/
def insertAt (s : Scan) (number : Nat) (inserted : List Token) : Scan :=
  let after := s.tokens.length - number
  { s with tokens := s.tokens.take after ++ inserted.reverse ++ s.tokens.drop after }

/-- No key can begin at a place any more: its line is left, or too much stands after it. -/
def isStale (s : Scan) (p : KeyPlace) : Bool :=
  p.line != s.cursor.line || 1024 < s.cursor.index - p.index

/-- The places that are no longer possible are forgotten; one that only a key can take is a fault. -/
def dropStale (s : Scan) : Except DocumentFault Scan :=
  if s.places.any fun e => s.isStale e.2 && e.2.required then .error .malformed
  else .ok { s with places := s.places.filter fun e => !s.isStale e.2 }

/-- The tokens that no later one can change: those before every place where a key may still turn
out to begin. -/
def settled (s : Scan) : List Token :=
  let candidates := (s.places.filter fun e => !s.isStale e.2).map (·.2.number)
  s.tokens.reverse.take (candidates.foldl min s.tokens.length)

/-- The place at this depth is forgotten; one that only a key can take is a fault. -/
def dropPlace (s : Scan) : Except DocumentFault Scan :=
  match s.places.lookup s.depth with
  | none => .ok s
  | some p =>
    if p.required then .error .malformed
    else .ok { s with places := s.places.filter (·.1 != s.depth) }

/-- A key may begin here. -/
def markPlace (s : Scan) : Except DocumentFault Scan := do
  if s.keyAllowed then
    let required := s.depth == 0 && s.indent == s.cursor.column
    let s ← s.dropPlace
    let place : KeyPlace :=
      ⟨s.tokens.length, required, s.cursor.index, s.cursor.line, s.cursor.column⟩
    return { s with places := (s.depth, place) :: s.places }
  else return s

def leaveBlocks (s : Scan) (column : Int) : Scan :=
  if s.depth != 0 then s else leave s.indent s.outer s
where
  leave (indent : Int) : List Int → Scan → Scan
    | [], s => s
    | outer :: rest, s =>
      if column < indent then
        leave outer rest { s with indent := outer, outer := rest, tokens := .blockEnd :: s.tokens }
      else s

/-- A block begins at a column deeper than the innermost one; says whether it does. -/
def enterBlock (s : Scan) (column : Nat) : Bool × Scan :=
  if s.indent < column then (true, { s with indent := column, outer := s.indent :: s.outer })
  else (false, s)

/-- The cursor at the next token, after spaces, comments and line ends. -/
def toNext : Nat → Scan → Scan
  | 0, s => s
  | fuel + 1, s =>
    let c := s.cursor.skipSpaces.skipComment
    match c.lineBreak with
    | (some _, c) =>
      toNext fuel { s with cursor := c, keyAllowed := s.keyAllowed || s.depth == 0 }
    | (none, c) => { s with cursor := c }

/-- The characters of a token are passed. -/
def skip (s : Scan) (count : Nat) : Scan := { s with cursor := s.cursor.advance count }

/-- A mark between documents, or a directive, ends every block. -/
def betweenDocuments (s : Scan) : Except DocumentFault Scan := do
  let s ← (s.leaveBlocks (-1)).dropPlace
  return { s with keyAllowed := false }

def openBracket (s : Scan) (t : Token) : Except DocumentFault Scan := do
  let s ← s.markPlace
  return { (s.skip 1).push t with depth := s.depth + 1, keyAllowed := true }

def closeBracket (s : Scan) (t : Token) : Except DocumentFault Scan := do
  let s ← s.dropPlace
  return { (s.skip 1).push t with depth := s.depth - 1, keyAllowed := false }

/-- The comma between entries in brackets. -/
def comma (s : Scan) : Except DocumentFault Scan := do
  let s ← { s with keyAllowed := true }.dropPlace
  return (s.skip 1).push .flowEntry

/-- A block begins at the cursor unless it is open, where a key may begin. -/
def blockAt (s : Scan) (t : Token) : Except DocumentFault Scan :=
  if s.depth != 0 then .ok s
  else if !s.keyAllowed then .error .malformed
  else match s.enterBlock s.cursor.column with
    | (true, s) => .ok (s.push t)
    | (false, s) => .ok s

/-- The dash before an entry of a sequence. -/
def dash (s : Scan) : Except DocumentFault Scan := do
  let s ← s.blockAt .sequenceStart
  let s ← { s with keyAllowed := true }.dropPlace
  return (s.skip 1).push .blockEntry

def questionMark (s : Scan) : Except DocumentFault Scan := do
  let s ← s.blockAt .mappingStart
  let s ← { s with keyAllowed := s.depth == 0 }.dropPlace
  return (s.skip 1).push .key

/-- The colon before a value: what began at the last place for a key was one. -/
def colon (s : Scan) : Except DocumentFault Scan := do
  match s.places.lookup s.depth with
  | some p =>
    let s := { s with places := s.places.filter (·.1 != s.depth), keyAllowed := false }
    let (entered, s) := if s.depth == 0 then s.enterBlock p.column else (false, s)
    let inserted := if entered then [Token.mappingStart, .key] else [.key]
    return ((s.insertAt p.number inserted).skip 1).push .value
  | none =>
    let s ← s.blockAt .mappingStart
    let s ← { s with keyAllowed := s.depth == 0 }.dropPlace
    return (s.skip 1).push .value

/-- What has been read at a place where a key may begin. -/
def leaf (s : Scan) (read : Cursor → Except DocumentFault (Token × Cursor)) :
    Except DocumentFault Scan := do
  let s ← s.markPlace
  let (t, c) ← read s.cursor
  return { s.push t with cursor := c, keyAllowed := false }

def block (s : Scan) (folded : Bool) : Except DocumentFault Scan := do
  let s ← { s with keyAllowed := true }.dropPlace
  let (text, c) ← blockScalar folded s.indent s.cursor
  return { s.push (.scalar (String.ofList text) false) with cursor := c }

def plain (s : Scan) : Except DocumentFault Scan := do
  let s ← s.markPlace
  let read := plainScalar (s.depth != 0) s.indent s.cursor
  return { s.push (.scalar (String.ofList read.text) true) with
    cursor := read.cursor, keyAllowed := read.ended }

/-- A plain scalar can begin at the cursor. -/
def canBePlain (s : Scan) : Bool :=
  match s.cursor.peek with
  | none => false
  | some ch =>
    !(atBlank (some ch) || "-?:,[]\x7b\x7d#&*!|>'\"%@`".toList.contains ch) ||
      (!atBlank (s.cursor.peekAt 1) && (ch == '-' || (s.depth == 0 && (ch == '?' || ch == ':'))))

/-- One token more, with those that the indentation and the keys bring; the end of the text is the
last token. -/
def step (s : Scan) : Except DocumentFault Scan := do
  let s := s.toNext (s.cursor.rest.length + 1)
  let s ← s.dropStale
  let c := s.cursor
  let s := s.leaveBlocks c.column
  let inFlow := s.depth != 0
  let lone := inFlow || atBlank (c.peekAt 1)
  match c.peek with
  | none => do
    let s ← s.betweenDocuments
    return { s with places := [] }.push .textEnd
  | some ch =>
    if ch == '%' && c.column == 0 then do
      let s ← s.betweenDocuments
      let (d, c) ← directive s.cursor
      return { s.push (.directive d) with cursor := c }
    else if c.column == 0 && c.onMarks '-' then do
      let s ← s.betweenDocuments
      return (s.skip 3).push .documentStart
    else if c.column == 0 && c.onMarks '.' then do
      let s ← s.betweenDocuments
      return (s.skip 3).push .documentEnd
    else if ch == '[' then s.openBracket .flowSequenceStart
    else if ch == '\x7b' then s.openBracket .flowMappingStart
    else if ch == ']' then s.closeBracket .flowSequenceEnd
    else if ch == '\x7d' then s.closeBracket .flowMappingEnd
    else if ch == ',' then s.comma
    else if ch == '-' && atBlank (c.peekAt 1) then s.dash
    else if ch == '?' && lone then s.questionMark
    else if ch == ':' && lone then s.colon
    else if ch == '*' then s.leaf fun c => do
      let (name, c) ← anchorName c
      return (.reference name, c)
    else if ch == '&' then s.leaf fun c => do
      let (name, c) ← anchorName c
      return (.anchor name, c)
    else if ch == '!' then s.leaf fun c => do
      let (t, c) ← writtenTag c
      return (.tag t, c)
    else if ch == '|' && !inFlow then s.block false
    else if ch == '>' && !inFlow then s.block true
    else if ch == '\'' || ch == '"' then s.leaf fun c => do
      let (text, c) ← quotedScalar (ch == '"') c
      return (.scalar (String.ofList text) false, c)
    else if s.canBePlain then s.plain
    else throw .malformed

/-- The settled tokens up to the end of the text, or up to a fault. What is known of the text may
end before the text does, and `beyond` says what is wrong after it: this is met when a token reaches
that far. -/
def run (beyond : Option DocumentFault) : Nat → Scan → List Token × Option DocumentFault
  | 0, s => (s.settled, some .malformed)
  | fuel + 1, s =>
    match s.step with
    | .error .cutShort => (s.settled, some (beyond.getD .cutShort))
    | .error fault => (s.settled, some fault)
    | .ok after =>
      if after.cursor.rest.isEmpty && beyond.isSome then (s.settled, beyond)
      else if after.tokens.head? = some .textEnd then (after.tokens.reverse, none)
      else run beyond fuel after

end Scan

/-- A text as it comes to be read: the characters that are known, and what is wrong with the ones
after them, if there are any. -/
structure Source where
  chars : List Char
  beyond : Option DocumentFault

/-- The characters of a text, without a mark of its byte order. -/
def contentChars (s : List Char) : List Char :=
  match s with
  | '\uFEFF' :: rest => rest
  | s => s

namespace Source

/-- A text that is there as a whole: one character that no document may hold forbids all of it. -/
def ofText (text : String) : Source :=
  let chars := text.toList
  if chars.all isAllowed then ⟨contentChars chars, none⟩ else ⟨[], some .malformed⟩

/-- Portions that come one after the other, and the fault that ends them; a character that no
document may hold forbids its portion. -/
def readable (fault : Option DocumentFault) : List (List Char) → Source
  | [] => ⟨[], fault⟩
  | portion :: rest =>
    if portion.all isAllowed then
      let after := readable fault rest
      ⟨portion ++ after.chars, after.beyond⟩
    else ⟨[], some .malformed⟩

/-- A text that comes in portions, the first two of them together. -/
def ofPortions (portions : List (List Char)) (fault : Option DocumentFault) : Source :=
  let together := match portions with
    | first :: second :: rest => (first ++ second) :: rest
    | portions => if fault.isSome then [] else portions
  let source := readable fault together
  { source with chars := contentChars source.chars }

/-- The tokens of a text, and the fault at which they end when they are not complete. -/
def tokens (source : Source) : List Token × Option DocumentFault :=
  (Scan.start source.chars).run source.beyond (source.chars.length * 2 + 4)

end Source

end Converge.Document
