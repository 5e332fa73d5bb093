import Converge.Document.Cursor

/-!
# Scalars

The four ways in which a scalar is written: plain, between single or double quotation marks, and as
a block of lines. Each reading begins at the scalar and ends after it. A line end inside a scalar
counts as a space, and further ones as line feeds, except in a literal block.
-/

namespace Converge.Document

/-- What a run of line ends counts as: the first is a space unless others follow it. -/
def foldBreaks (first : Option Char) (others : List Char) : List Char :=
  match first with
  | some '\n' => if others.isEmpty then [' '] else others
  | some c => c :: others
  | none => others

/-! ## Quoted scalars -/

/-- The character that a letter after a backslash stands for. -/
def escapeOf (c : Char) : Option Char :=
  match c with
  | '0' => some '\x00'
  | 'a' => some '\x07'
  | 'b' => some '\x08'
  | 't' | '\t' => some '\t'
  | 'n' => some '\n'
  | 'v' => some '\x0b'
  | 'f' => some '\x0c'
  | 'r' => some '\r'
  | 'e' => some '\x1b'
  | ' ' => some ' '
  | '"' => some '"'
  | '\\' => some '\\'
  | '/' => some '/'
  | 'N' => some '\u0085'
  | '_' => some '\u00a0'
  | 'L' => some '\u2028'
  | 'P' => some '\u2029'
  | _ => none

/-- How many hexadecimal digits follow a letter after a backslash. -/
def escapeWidth (c : Char) : Option Nat :=
  match c with
  | 'x' => some 2
  | 'u' => some 4
  | 'U' => some 8
  | _ => none

def charOfCode (n : Nat) : Except DocumentFault Char :=
  if 0x7FFFFFFF < n then .error .hugeCodePoint
  else if 0x10FFFF < n then .error .codePoint
  else .ok (Text.charOf n)

/-- The blank lines at the cursor, in a quoted scalar. -/
def quotedBreaks : Nat → Cursor → Except DocumentFault (List Char × Cursor)
  | 0, _ => .error .malformed
  | fuel + 1, c =>
    if c.onDocumentMarks then .error .malformed
    else
      let c := c.skipWhile fun ch => ch == ' ' || ch == '\t'
      match c.lineBreak with
      | (some br, c) => do
        let (others, c) ← quotedBreaks fuel c
        return (br :: others, c)
      | (none, c) => .ok ([], c)

/-- What an escape stands for, from the character after the backslash. -/
def escaped (c : Cursor) : Except DocumentFault (List Char × Cursor) :=
  match c.peek with
  | none => .error .cutShort
  | some ch =>
    if let some plain := escapeOf ch then .ok ([plain], c.next)
    else if let some width := escapeWidth ch then
      let digits := (c.next.rest.take width).map (Text.digitOf? 16)
      if digits.length = width ∧ digits.all Option.isSome then do
        let made ← charOfCode (Text.ofDigits 16 (digits.filterMap id))
        return ([made], c.next.advance width)
      else .error .malformed
    else if isBreak ch then quotedBreaks (c.rest.length + 1) c.lineBreak.2
    else .error .malformed

/-- The content up to the closing mark, and the cursor after the mark. -/
def quoted (double : Bool) : Nat → Cursor → Except DocumentFault (List Char × Cursor)
  | 0, _ => .error .malformed
  | fuel + 1, c =>
    let andThen (front : List Char) (c : Cursor) : Except DocumentFault (List Char × Cursor) := do
      let (more, c) ← quoted double fuel c
      return (front ++ more, c)
    match c.peek with
    | none => .error .cutShort
    | some ch =>
      if ch == ' ' || ch == '\t' || isBreak ch then
        let (blanks, c) := c.takeWhile fun ch => ch == ' ' || ch == '\t'
        match c.peek, c.lineBreak with
        | none, _ => .error .cutShort
        | some _, (none, c) => andThen blanks c
        | some _, (br, c) => do
          let (others, c) ← quotedBreaks (c.rest.length + 1) c
          andThen (foldBreaks br others) c
      else if double then
        if ch == '"' then .ok ([], c.next)
        else if ch == '\\' then do
          let (made, c) ← escaped c.next
          andThen made c
        else andThen [ch] c.next
      else if ch == '\'' then
        if c.peekAt 1 == some '\'' then andThen ['\''] (c.advance 2) else .ok ([], c.next)
      else andThen [ch] c.next

def quotedScalar (double : Bool) (c : Cursor) : Except DocumentFault (List Char × Cursor) :=
  quoted double (c.rest.length + 1) c.next

/-! ## Plain scalars -/

/-- A plain scalar, as it is read so far. -/
structure PlainRead where
  text : List Char
  cursor : Cursor
  /-- A line end follows the text, so that a key may begin after it. -/
  ended : Bool

/-- Whether a plain scalar stops before a character, given the one after it. -/
def stopsPlain (inFlow : Bool) (ch : Char) (after : Option Char) : Bool :=
  atBlank (some ch) ||
    (ch == ':' && (atBlank after || (inFlow && after.any (",[]\x7b\x7d".toList.contains ·)))) ||
    (inFlow && ",?[]\x7b\x7d".toList.contains ch)

def plainWord (inFlow : Bool) : List Char → List Char
  | [] => []
  | ch :: rest => if stopsPlain inFlow ch rest.head? then [] else ch :: plainWord inFlow rest

/-- The line ends after the first, with the spaces between them; nothing when a mark of the
document begins one of the lines. -/
def plainBreaks : Nat → Cursor → Option (List Char) × Cursor
  | 0, c => (some [], c)
  | fuel + 1, c =>
    if c.onDocumentMarks then (none, c)
    else
      let c := c.skipSpaces
      match c.lineBreak with
      | (some br, c) =>
        let (others, c) := plainBreaks fuel c
        (others.map (br :: ·), c)
      | (none, c) => (some [], c)

/-- What stands between two words of a plain scalar, and whether it holds a line end. -/
def plainSpaces (c : Cursor) : List Char × Bool × Cursor :=
  let (blanks, c) := c.takeWhile (· == ' ')
  match c.lineBreak with
  | (some br, c) =>
    match plainBreaks (c.rest.length + 1) c with
    | (some others, c) => (foldBreaks (some br) others, true, c)
    | (none, c) => ([], true, c)
  | (none, c) => (blanks, false, c)

/-- The words of a plain scalar with what stands between them; `indent` is the least column of a
further line. -/
def plainFrom (inFlow : Bool) (indent : Int) :
    Nat → (spaces : List Char) → (ended : Bool) → Cursor → PlainRead
  | 0, _, ended, c => ⟨[], c, ended⟩
  | fuel + 1, spaces, ended, c =>
    let word := if c.peek == some '#' then [] else plainWord inFlow c.rest
    if word.isEmpty then ⟨[], c, ended⟩
    else
      let (after, broken, c) := plainSpaces (c.advance word.length)
      if after.isEmpty || c.peek == some '#' || (!inFlow && c.column < indent) then
        ⟨spaces ++ word, c, broken⟩
      else
        let more := plainFrom inFlow indent fuel after broken c
        ⟨spaces ++ word ++ more.text, more.cursor, more.ended⟩

/-- A plain scalar, from its first character; `indent` is the column of the enclosing block. -/
def plainScalar (inFlow : Bool) (indent : Int) (c : Cursor) : PlainRead :=
  plainFrom inFlow (indent + 1) (c.rest.length + 1) [] false c

/-! ## Block scalars -/

/-- What becomes of the line ends after the last line of a block. -/
inductive Chomping where
  | clip
  | strip
  | keep
deriving DecidableEq, Repr

/-- The sign of a treatment of the last line ends. -/
def chompingOf (c : Option Char) : Option Chomping :=
  match c with
  | some '+' => some .keep
  | some '-' => some .strip
  | _ => none

/-- A digit that says how far a block is indented. -/
def indentDigit (c : Option Char) : Option Nat := c.bind (Text.digitOf? 10)

/-- The signs after the mark of a block, in either order. -/
def blockSigns (c : Cursor) : Except DocumentFault (Chomping × Option Nat × Cursor) :=
  let (chomping, c) := match chompingOf c.peek with
    | some chomping => (some chomping, c.next)
    | none => (none, c)
  let (increment, c) := match indentDigit c.peek with
    | some n => (some n, c.next)
    | none => (none, c)
  let (chomping, c) := match chomping, increment, chompingOf c.peek with
    | none, some _, some chomping => (some chomping, c.next)
    | chomping, _, _ => (chomping, c)
  if increment = some 0 || !atSpace c.peek then .error .malformed
  else .ok (chomping.getD .clip, increment, c)

/-- The blank lines at the front of a block whose indentation is not known yet, with the widest
indentation among them and the first line. -/
def leadingBreaks : Nat → (widest : Nat) → Cursor → List Char × Nat × Cursor
  | 0, widest, c => ([], widest, c)
  | fuel + 1, widest, c =>
    let c := c.skipSpaces
    let widest := max widest c.column
    match c.lineBreak with
    | (some br, c) =>
      let (others, widest, c) := leadingBreaks fuel widest c
      (br :: others, widest, c)
    | (none, c) => ([], widest, c)

/-- The blank lines of a block, and the cursor at the indentation of the next line. -/
def blockBreaks (indent : Nat) : Nat → Cursor → List Char × Cursor
  | 0, c => ([], c)
  | fuel + 1, c =>
    let c := c.skipSpacesUpTo indent
    match c.lineBreak with
    | (some br, c) =>
      let (others, c) := blockBreaks indent fuel c
      (br :: others, c)
    | (none, c) => ([], c)

/-- The lines of a block: its text up to the end of the last line, the line end there and the blank
lines after it. -/
def blockLines (folded : Bool) (indent : Nat) :
    Nat → (breaks : List Char) → Cursor → List Char × Option Char × List Char × Cursor
  | 0, breaks, c => ([], none, breaks, c)
  | fuel + 1, breaks, c =>
    if c.column != indent || c.peek.isNone then ([], none, breaks, c)
    else
      let leading := !(c.peek.any fun ch => ch == ' ' || ch == '\t')
      let (line, c) := c.takeWhile (!isBreak ·)
      let (br, c) := c.lineBreak
      let (after, c) := blockBreaks indent (c.rest.length + 1) c
      if c.column == indent && c.peek.isSome then
        let indented := c.peek.any fun ch => ch == ' ' || ch == '\t'
        let joint :=
          if folded && br == some '\n' && leading && !indented then
            if after.isEmpty then [' '] else []
          else br.toList
        let (text, last, blank, c) := blockLines folded indent fuel after c
        (breaks ++ line ++ joint ++ text, last, blank, c)
      else (breaks ++ line, br, after, c)

/-- A block scalar, from its mark; `indent` is the column of the enclosing block. -/
def blockScalar (folded : Bool) (indent : Int) (c : Cursor) :
    Except DocumentFault (List Char × Cursor) := do
  let (chomping, increment, c) ← blockSigns c.next
  let c ← c.restOfLine
  let least := (max (indent + 1) 1).toNat
  let fuel := c.rest.length + 1
  let (breaks, indent, c) := match increment with
    | none =>
      let (breaks, widest, c) := leadingBreaks fuel 0 c
      (breaks, max least widest, c)
    | some n =>
      let (breaks, c) := blockBreaks (least + n - 1) fuel c
      (breaks, least + n - 1, c)
  let (text, last, blank, c) := blockLines folded indent fuel breaks c
  let ending := match chomping with
    | .strip => []
    | .clip => last.toList
    | .keep => last.toList ++ blank
  return (text ++ ending, c)

end Converge.Document
