import Converge.Text.Printable
import Converge.Text.Surrogate

/-!
# Quoted text

A text between quotation marks, so that it can be read in a message. A single quotation mark stands
at both ends unless the text holds one and no double quotation mark. What cannot be printed is
written by its code point, bytes outside the printable range by their value.
-/

namespace Converge.Text

/-- The last `width` hexadecimal digits of a number. -/
def hexDigits : (width : Nat) → Nat → List Char
  | 0, _ => []
  | width + 1, n => hexDigits width (n / 16) ++ [Nat.digitChar (n % 16)]

/-- The mark that stands at both ends. -/
def quoteMark (s : List Char) : Char :=
  if s.contains '\'' && !s.contains '"' then '"' else '\''

/-- What is written for a character between two marks; `plain` says what stands for itself. -/
def quoteChar (mark : Char) (plain : Char → Bool) (c : Char) : List Char :=
  if c = mark || c = '\\' then ['\\', c]
  else if c = '\t' then ['\\', 't']
  else if c = '\n' then ['\\', 'n']
  else if c = '\r' then ['\\', 'r']
  else if plain c then [c]
  else
    let n := (surrogate? c).getD c.toNat
    if n < 0x100 then '\\' :: 'x' :: hexDigits 2 n
    else if n < 0x10000 then '\\' :: 'u' :: hexDigits 4 n
    else '\\' :: 'U' :: hexDigits 8 n

/-- A text between quotation marks. -/
def quote (s : String) : String :=
  let chars := s.toList
  let mark := quoteMark chars
  String.ofList (mark :: chars.flatMap (quoteChar mark isPrintable) ++ [mark])

/-- Bytes between quotation marks, after a `b`. -/
def quoteBytes (bytes : ByteArray) : String :=
  let chars := bytes.toList.map fun b => Char.ofNat b.toNat
  let mark := quoteMark chars
  let plain (c : Char) := 32 ≤ c.toNat && c.toNat < 127
  String.ofList ('b' :: mark :: chars.flatMap (quoteChar mark plain) ++ [mark])

end Converge.Text
