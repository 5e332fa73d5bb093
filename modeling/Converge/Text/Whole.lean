import Converge.Text.Digit
import Converge.Text.Quoted

/-!
# Whole numbers in text

A whole number is a sign and digits, with blanks around it and single underscores between digits.
The bases 2, 8 and 16 admit their marks `0b`, `0o` and `0x`. A decimal number has at most 4300
digits, also when it is shown.
-/

namespace Converge.Text

/-- Why a text is not a whole number. -/
inductive WholeFault where
  /-- The text, as it is shown, is no number to the base. -/
  | malformed (base : Nat) (shown : String)
  /-- There are too many decimal digits. -/
  | tooLong (digits : Nat)
deriving DecidableEq, Repr

/-- The most digits of a decimal number. -/
def maxDigits : Nat := 4300

/-- How much of a text is shown that is no number. -/
def shownLength : Nat := 200

/-- The mark of a base, dropped from the front together with an underscore after it. -/
def dropBaseMark (base : Nat) (s : List Char) : List Char :=
  let mark := match base with
    | 2 => ['b', 'B']
    | 8 => ['o', 'O']
    | 16 => ['x', 'X']
    | _ => []
  match s with
  | '0' :: m :: '_' :: rest => if mark.contains m then rest else s
  | '0' :: m :: rest => if mark.contains m then rest else s
  | _ => s

/-- The whole number that prepared characters write; `shown` is the text for the message. -/
def wholeOfChars (base : Nat) (shown : String) (s : List Char) : Except WholeFault Int :=
  let (negative, body) := takeSign s
  let (ds, rest) := takeDigits base (dropBaseMark base body)
  if base = 10 ∧ maxDigits < ds.length then .error (.tooLong ds.length)
  else if ds.isEmpty || !rest.isEmpty then .error (.malformed base shown)
  else .ok (if negative then -(ofDigits base ds : Int) else ofDigits base ds)

/-- The whole number that a text writes to a base. -/
def readWhole (base : Nat) (s : String) : Except WholeFault Int :=
  wholeOfChars base (quote s) (numberChars s.toList)

/-- The decimal whole number that bytes write; no blank or digit is outside the first 128. -/
def readWholeBytes (bytes : ByteArray) : Except WholeFault Int :=
  let chars := bytes.toList.map fun b => if b < 128 then Char.ofNat b.toNat else '?'
  wholeOfChars 10 (quoteBytes bytes) (numberChars chars)

/-- The limit to the digits of a decimal number, in words. -/
def digitLimit : String :=
  "Exceeds the limit (" ++ toString maxDigits ++ " digits) for integer string conversion"

/-- What can be done about the limit. -/
def digitAdvice : String := "; use sys.set_int_max_str_digits() to increase the limit"

/-- The text of a whole number; none when it has too many digits. -/
def showWhole? (i : Int) : Option String :=
  let digits := toString i.natAbs
  if maxDigits < digits.length then none else some (if i < 0 then "-" ++ digits else digits)

/-- The wording of a refusal to show a number. -/
def unshownWhole : String := digitLimit ++ digitAdvice

/-- The wording of a refusal. -/
def WholeFault.message : WholeFault → String
  | .malformed base shown =>
    "invalid literal for int() with base " ++ toString base ++ ": " ++
      String.ofList (shown.toList.take shownLength)
  | .tooLong digits =>
    digitLimit ++ ": value has " ++ toString digits ++ " digits" ++ digitAdvice

end Converge.Text
