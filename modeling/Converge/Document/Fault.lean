import Converge.Calendar
import Converge.Text.Utf8
import Converge.Text.Whole

/-!
# What is wrong with a document

A document is malformed, or well formed and one of its scalars says something impossible. What a
reader of documents says of a malformed one is left out: a placeholder stands for it in messages.
-/

namespace Converge

/-- Why a text is not read as a document, or a value not written as one. -/
inductive DocumentFault where
  /-- The form is broken, or a value has no form. -/
  | malformed
  /-- The text ends inside a scalar. -/
  | cutShort
  /-- The bytes of the text are not UTF-8. -/
  | decoding (fault : Text.Utf8Fault)
  /-- An escape names no character. -/
  | codePoint
  /-- An escape names a number beyond 31 bits. -/
  | hugeCodePoint
  /-- A scalar tagged as a truth value is another word. -/
  | truthWord (word : String)
  /-- A scalar tagged as a number has no character. -/
  | emptyNumber
  /-- A scalar tagged as a whole number is none. -/
  | whole (fault : Text.WholeFault)
  /-- A scalar tagged as a number with a fraction is none. -/
  | fraction (word : String)
  /-- A part to the base 60 stands at too high a place. -/
  | hugeWeight
  /-- A number has too many digits to be written. -/
  | longNumber
  /-- A date or time does not exist. -/
  | calendar (fault : CalendarFault)
  /-- A scalar tagged as a time is none. -/
  | notTime
  /-- A mapping tagged as a time is one only by the text of its key `=`. -/
  | timeOfMapping
  /-- The key `=` of a mapping leads back to the mapping. -/
  | endlessText
deriving DecidableEq, Repr

/-- The form is broken. -/
def DocumentFault.isMalformed (f : DocumentFault) : Bool := f == malformed || f == cutShort

/-- The name of the class of a fault. -/
def DocumentFault.kind : DocumentFault → String
  | malformed | cutShort => "YAMLError"
  | decoding _ => "UnicodeDecodeError"
  | hugeCodePoint | hugeWeight => "OverflowError"
  | truthWord _ => "KeyError"
  | emptyNumber => "IndexError"
  | notTime => "AttributeError"
  | timeOfMapping => "TypeError"
  | endlessText => "RecursionError"
  | codePoint | whole _ | fraction _ | longNumber | calendar _ => "ValueError"

def DocumentFault.message : DocumentFault → String
  | malformed | cutShort => "<yaml error>"
  | decoding fault => fault.message
  | codePoint => "chr() arg not in range(0x110000)"
  | hugeCodePoint => "Python int too large to convert to C int"
  | truthWord word => Text.quote word
  | hugeWeight => "int too large to convert to float"
  | longNumber => Text.unshownWhole
  | emptyNumber => "string index out of range"
  | whole fault => fault.message
  | fraction word => "could not convert string to float: " ++ Text.quote word
  | calendar fault => fault.message
  | notTime => "'NoneType' object has no attribute 'groupdict'"
  | timeOfMapping => "expected string or bytes-like object, got 'list'"
  | endlessText => "maximum recursion depth exceeded"

end Converge
