import Converge.Document.Tag
import Converge.Value
import Converge.Text.Base64

/-!
# How scalars are written

A scalar is written plain when its form says what it is, between single quotation marks when only
its form stands in the way, and between double ones when a character needs an escape. Bytes are a
literal block.
-/

namespace Converge.Document

/-- The ways to write a scalar. -/
inductive Style where
  | plain
  | single
  | double
  | literal
deriving DecidableEq, Repr

/-- A scalar to be written: its text, its tag, and whether its text alone says its tag. -/
structure Written where
  text : List Char
  tag : Tag
  /-- The plain text would be read with this tag. -/
  evident : Bool
  /-- A block of lines is asked for. -/
  asBlock : Bool

/-- The sign of the tag of a scalar. -/
def Written.sign (w : Written) : String :=
  "!!" ++ ((tagNames.find? fun e => e.2 = w.tag).map Prod.fst).getD ""

/-- A character that is neither a line feed nor printable in the first 128. -/
def isSpecial (c : Char) : Bool := !(c == '\n' || (' ' ≤ c && c ≤ '~'))

/-- A character that is no content at the start of a plain scalar. -/
def isIndicator (c : Char) : Bool := "#,[]\x7b\x7d&*!|>'\"%@`".toList.contains c

/-- A character stands directly before another somewhere in a text. -/
def hasPair (first second : Char → Bool) : List Char → Bool
  | a :: b :: rest => (first a && second b) || hasPair first second (b :: rest)
  | _ => false

/-- The text begins with one of the marks between documents. -/
def beginsWithMarks (s : List Char) : Bool :=
  s.take 3 == ['-', '-', '-'] || s.take 3 == ['.', '.', '.']

/-- A sign in the text would be read as structure, outside of brackets. -/
def hasIndicator (s : List Char) : Bool :=
  let blankAfter (rest : List Char) := atBlankEnd rest
  beginsWithMarks s ||
    (match s with
      | [] => false
      | c :: rest => isIndicator c || ((c == '?' || c == ':' || c == '-') && blankAfter rest)) ||
    inner s.tail || hasPair isBlankChar (· == '#') s
where
  /-- The end of the text or a blank. -/
  atBlankEnd (rest : List Char) : Bool := rest.head?.all isBlankChar
  /-- A blank or a line end. -/
  isBlankChar (c : Char) : Bool :=
    c == ' ' || c == '\t' || c == '\n' || c == '\r' || c == '\u0085' || c == '\u2028' || c == '\u2029'
  /-- A colon before a blank, after the first character. -/
  inner : List Char → Bool
    | [] => false
    | c :: rest => (c == ':' && atBlankEnd rest) || inner rest

/-- The text goes over several lines. -/
def isMultiline (s : List Char) : Bool :=
  s.any fun c => c == '\n' || c == '\u0085' || c == '\u2028' || c == '\u2029'

/-- Nothing in the text itself stands against writing it plain. -/
def allowsPlain (s : List Char) : Bool :=
  !(s.head? == some ' ' || s.getLast? == some ' ' || isMultiline s || s.any isSpecial ||
    hasIndicator s)

/-- Nothing in the text stands against single quotation marks. -/
def allowsSingle (s : List Char) : Bool :=
  !(s.any isSpecial || hasPair (· == '\n') (· == ' ') s || hasPair (· == ' ') (· == '\n') s)

/-- The way in which a scalar is written; `asKey` says that it stands before its colon. -/
def Written.style (w : Written) (asKey : Bool) : Style :=
  let several := isMultiline w.text
  if !w.asBlock && w.evident && !(asKey && (w.text.isEmpty || several)) && allowsPlain w.text then
    .plain
  else if w.asBlock && !asKey && !w.text.isEmpty then .literal
  else if !w.asBlock && allowsSingle w.text && !(asKey && several) then .single
  else .double

def fractionText (d : Double) : String :=
  match d with
  | .nan => ".nan"
  | .infinite negative => if negative then "-.inf" else ".inf"
  | .finite .. =>
    let text := d.text
    if text.contains '.' then text else text.replace "e" ".0e"

/-- The scalar of a value that is none of the collections. -/
def Written.of? (v : Value) : Option Written :=
  let evident (tag : Tag) (s : String) : Option Written :=
    some ⟨s.toList, tag, Tag.ofPlain s = tag, false⟩
  match v with
  | .null => evident .null "null"
  | .bool b => evident .truth (if b then "true" else "false")
  | .int i => evident .whole (toString i)
  | .float d => evident .fraction (fractionText d)
  | .text s => evident .text s
  | .bytes b => some ⟨Text.base64Encode b, .binary, false, true⟩
  | .date _ d => evident .time d.text
  | .moment _ m => evident .time m.text
  | _ => none

end Converge.Document
