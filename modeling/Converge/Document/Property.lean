import Converge.Document.Cursor
import Converge.Text.Utf8

/-!
# Names, tags and directives

What may stand before a node or before a document: the name of an anchor, a tag with its handle,
and the lines that state a version or a handle.
-/

namespace Converge.Document

/-- A tag as it is written: a handle, or none when the tag is complete, and what follows it. -/
structure WrittenTag where
  handle : Option String
  suffix : String
deriving DecidableEq, Repr

/-- A line before a document. -/
inductive Directive where
  | version (major : Nat)
  | handle (handle : String) (meaning : String)
  | other
deriving DecidableEq, Repr

/-- A name of at least one character. -/
def takeName (c : Cursor) : Except DocumentFault (String × Cursor) :=
  match c.takeWhile isNameChar with
  | ([], _) => .error .malformed
  | (name, c) => .ok (String.ofList name, c)

/-- The name after the mark of an anchor or of a reference to one. -/
def anchorName (c : Cursor) : Except DocumentFault (String × Cursor) := do
  let (name, c) ← takeName c.next
  if atBlank c.peek || c.peek.any ("?:,]\x7d%@`".toList.contains ·) then return (name, c)
  else throw .malformed

/-- A character of the part of a tag after its handle. -/
def isTagChar (c : Char) : Bool :=
  c.isAlphanum || "-;/?:@&=+$,_.!~*'()[]%".toList.contains c

/-- A byte written as two hexadecimal digits after a percent sign, at the front. -/
def percentByte (s : List Char) : Option UInt8 :=
  match s with
  | '%' :: a :: b :: _ =>
    match Text.digitOf? 16 a, Text.digitOf? 16 b with
    | some a, some b => some (UInt8.ofNat (a * 16 + b))
    | _, _ => none
  | _ => none

/-- The characters of a tag with each run of percent signs read as UTF-8; `bytes` is the run so far,
in reverse. -/
def unescapeTag : (bytes : List UInt8) → Nat → List Char → Except DocumentFault (List Char)
  | _, 0, _ => .error .malformed
  | bytes, fuel + 1, s =>
    let flushed : Except DocumentFault (List Char) :=
      match Text.decode ⟨bytes.reverse.toArray⟩ with
      | .ok text => .ok text.toList
      | .error _ => .error .malformed
    match s with
    | [] => flushed
    | '%' :: _ =>
      match percentByte s with
      | some b => unescapeTag (b :: bytes) fuel (s.drop 3)
      | none => .error .malformed
    | ch :: rest => do
      let front ← flushed
      let more ← unescapeTag [] fuel rest
      return front ++ ch :: more

/-- The part of a tag after its handle. -/
def tagSuffix (c : Cursor) : Except DocumentFault (String × Cursor) :=
  match c.takeWhile isTagChar with
  | ([], _) => .error .malformed
  | (chars, c) => do
    let text ← unescapeTag [] (chars.length + 1) chars
    return (String.ofList text, c)

/-- The handle of a tag: one mark, or two with a name between them. -/
def tagHandle (c : Cursor) : Except DocumentFault (String × Cursor) :=
  if c.peek != some '!' then .error .malformed
  else if c.peekAt 1 == some ' ' then .ok ("!", c.next)
  else
    let (name, c) := c.next.takeWhile isNameChar
    if c.peek == some '!' then .ok (String.ofList ('!' :: name ++ ['!']), c.next)
    else .error .malformed

def writtenTag (c : Cursor) : Except DocumentFault (WrittenTag × Cursor) := do
  let (tag, c) ←
    if c.peekAt 1 == some '<' then do
      let (suffix, c) ← tagSuffix (c.advance 2)
      if c.peek == some '>' then pure (⟨none, suffix⟩, c.next) else throw .malformed
    else if atBlank (c.peekAt 1) then pure (⟨none, "!"⟩, c.next)
    else do
      let word := c.next.rest.takeWhile fun ch => !atSpace (some ch)
      let (handle, c) ← if word.contains '!' then tagHandle c else pure ("!", c.next)
      let (suffix, c) ← tagSuffix c
      pure (⟨some handle, suffix⟩, c)
  if atSpace c.peek then return (tag, c) else throw .malformed

def versionNumber (c : Cursor) : Except DocumentFault (Nat × Cursor) :=
  match c.takeWhile Char.isDigit with
  | ([], _) => .error .malformed
  | (digits, c) =>
    if Text.maxDigits < digits.length then .error (.whole (.tooLong digits.length))
    else .ok (Text.ofDigits 10 (digits.filterMap (Text.digitOf? 10)), c)

/-- A directive, from its mark to the end of its line. -/
def directive (c : Cursor) : Except DocumentFault (Directive × Cursor) := do
  let (name, c) ← takeName c.next
  if !atSpace c.peek then throw .malformed
  let (made, c) ← (
    if name = "YAML" then do
      let (major, c) ← versionNumber c.skipSpaces
      if c.peek != some '.' then throw .malformed
      let (_, c) ← versionNumber c.next
      if !atSpace c.peek then throw .malformed
      pure (Directive.version major, c)
    else if name = "TAG" then do
      let (handle, c) ← tagHandle c.skipSpaces
      if c.peek != some ' ' then throw .malformed
      let (meaning, c) ← tagSuffix c.skipSpaces
      if !atSpace c.peek then throw .malformed
      pure (Directive.handle handle meaning, c)
    else pure (Directive.other, c.skipWhile (!isBreak ·)) : Except DocumentFault _)
  let c ← c.restOfLine
  return (made, c)

end Converge.Document
