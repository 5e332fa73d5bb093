import Converge.Document.Fault
import Converge.Text.Surrogate

/-!
# Reading position

A cursor stands before the characters that are left and knows its line and column. The classes of
characters that structure a document are stated of the character before which a cursor stands,
which is none at the end.
-/

namespace Converge.Document

/-- A character that a document may hold. -/
def isAllowed (c : Char) : Bool :=
  let n := c.toNat
  n == 9 || n == 10 || n == 13 || (32 ≤ n && n ≤ 126) || n == 133 || (160 ≤ n && n ≤ 0xD7FF) ||
    (0xE000 ≤ n && n ≤ 0xFFFD) || (0x10000 ≤ n && !Text.isSurrogate c)

/-- A character that ends a line. -/
def isBreak (c : Char) : Bool :=
  c == '\n' || c == '\r' || c == '\u0085' || c == '\u2028' || c == '\u2029'

/-- A line end or the end of the document. -/
def atBreak (c : Option Char) : Bool := c.all isBreak

/-- A space, a line end or the end of the document. -/
def atSpace (c : Option Char) : Bool := c.all fun c => c == ' ' || isBreak c

/-- A space, a tab, a line end or the end of the document. -/
def atBlank (c : Option Char) : Bool := c.all fun c => c == ' ' || c == '\t' || isBreak c

def isNameChar (c : Char) : Bool := c.isAlphanum || c == '-' || c == '_'

/-- The characters that are left and where the first of them stands. -/
structure Cursor where
  rest : List Char
  index : Nat
  line : Nat
  column : Nat
deriving Repr

namespace Cursor

def start (s : List Char) : Cursor := ⟨s, 0, 0, 0⟩

/-- The character before which the cursor stands. -/
def peek (c : Cursor) : Option Char := c.rest.head?

/-- The character so many places further on. -/
def peekAt (c : Cursor) (n : Nat) : Option Char := c.rest[n]?

/-- The cursor after one character. -/
def next (c : Cursor) : Cursor :=
  match c.rest with
  | [] => c
  | ch :: rest =>
    if ch == '\r' && rest.head? == some '\n' then ⟨rest, c.index + 1, c.line, c.column + 1⟩
    else if isBreak ch then ⟨rest, c.index + 1, c.line + 1, 0⟩
    else ⟨rest, c.index + 1, c.line, if ch == '\uFEFF' then c.column else c.column + 1⟩

/-- The cursor after so many characters. -/
def advance : Nat → Cursor → Cursor
  | 0, c => c
  | n + 1, c => advance n c.next

/-- The characters of a class at the cursor, and the cursor after them. -/
def takeWhile (p : Char → Bool) (c : Cursor) : List Char × Cursor :=
  let taken := c.rest.takeWhile p
  (taken, c.advance taken.length)

/-- The cursor after the characters of a class. -/
def skipWhile (p : Char → Bool) (c : Cursor) : Cursor := (c.takeWhile p).2

def skipSpaces (c : Cursor) : Cursor := c.skipWhile (· == ' ')

def skipSpacesUpTo (width : Nat) (c : Cursor) : Cursor :=
  c.advance (min (width - c.column) (c.rest.takeWhile (· == ' ')).length)

/-- The cursor at the end of the line, when a comment begins here. -/
def skipComment (c : Cursor) : Cursor :=
  if c.peek == some '#' then c.skipWhile (!isBreak ·) else c

/-- The line end at the cursor, as it counts in a scalar, and the cursor after it. -/
def lineBreak (c : Cursor) : Option Char × Cursor :=
  match c.peek with
  | some '\r' => (some '\n', if c.peekAt 1 == some '\n' then c.advance 2 else c.next)
  | some '\n' | some '\u0085' => (some '\n', c.next)
  | some '\u2028' => (some '\u2028', c.next)
  | some '\u2029' => (some '\u2029', c.next)
  | _ => (none, c)

/-- Three marks and a blank stand at the cursor, which begin or end a document. -/
def onMarks (mark : Char) (c : Cursor) : Bool :=
  c.rest.take 3 == [mark, mark, mark] && atBlank (c.peekAt 3)

/-- The marks that begin or those that end a document stand at the cursor. -/
def onDocumentMarks (c : Cursor) : Bool := c.onMarks '-' || c.onMarks '.'

/-- What is left of a line whose content has ended: spaces and a comment. -/
def restOfLine (c : Cursor) : Except DocumentFault Cursor :=
  let c := c.skipSpaces.skipComment
  if atBreak c.peek then .ok c.lineBreak.2 else .error .malformed

end Cursor

end Converge.Document
