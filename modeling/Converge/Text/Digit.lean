import Converge.Text.Blank

/-!
# Decimal digits

The digits of every script, ten in a row each, and the form in which a number is read: without
blanks at its ends and with the digits 0 to 9 for those of any script.
-/

namespace Converge.Text

/-- The code points of the zeros; nine more digits follow each. -/
def digitZeros : List Nat :=
  [48, 1632, 1776, 1984, 2406, 2534, 2662, 2790, 2918, 3046, 3174, 3302, 3430, 3558, 3664, 3792,
    3872, 4160, 4240, 6112, 6160, 6470, 6608, 6784, 6800, 6992, 7088, 7232, 7248, 42528, 43216,
    43264, 43472, 43504, 43600, 44016, 65296, 66720, 68912, 69734, 69872, 69942, 70096, 70384,
    70736, 70864, 71248, 71360, 71472, 71904, 72016, 72784, 73040, 73120, 92768, 92864, 93008,
    120782, 120792, 120802, 120812, 120822, 123200, 123632, 125264, 130032]

def digitValue? (c : Char) : Option Nat :=
  (digitZeros.find? fun first => first ≤ c.toNat && c.toNat < first + 10).map (c.toNat - ·)

/-- A blank that may stand around a number: no separator control. -/
def isNumberBlank (c : Char) : Bool :=
  isBlank c && !(28 ≤ c.toNat && c.toNat ≤ 31)

def numberChars (s : List Char) : List Char :=
  (dropRight isNumberBlank (s.dropWhile isNumberBlank)).map fun c =>
    match digitValue? c with
    | some d => Nat.digitChar d
    | none => c

/-- The value of a digit `0` to `9` or a letter `a` to `z`, in either case. -/
def digitOf? (base : Nat) (c : Char) : Option Nat :=
  let value :=
    if '0' ≤ c ∧ c ≤ '9' then c.toNat - 48
    else if 'a' ≤ c ∧ c ≤ 'z' then c.toNat - 87
    else if 'A' ≤ c ∧ c ≤ 'Z' then c.toNat - 55
    else base
  if value < base then some value else none

/-- The digits at the front and what follows them; an underscore may stand before a digit, once,
where `between` says that a digit has been read. -/
def takeDigitsFrom (base : Nat) (between : Bool) : List Char → List Nat × List Char
  | [] => ([], [])
  | c :: rest =>
    match digitOf? base c with
    | some d =>
      let (ds, tail) := takeDigitsFrom base true rest
      (d :: ds, tail)
    | none =>
      if c = '_' && between then
        let (ds, tail) := takeDigitsFrom base false rest
        if ds.isEmpty then ([], c :: rest) else (ds, tail)
      else ([], c :: rest)

/-- The digits at the front and what follows them; one underscore may stand between two digits. -/
def takeDigits (base : Nat) (s : List Char) : List Nat × List Char :=
  takeDigitsFrom base false s

/-- The number written by digits, the most significant first. -/
def ofDigits (base : Nat) (ds : List Nat) : Nat :=
  ds.foldl (fun n d => n * base + d) 0

/-- A sign at the front: whether it is a minus, and what follows. -/
def takeSign : List Char → Bool × List Char
  | '-' :: rest => (true, rest)
  | '+' :: rest => (false, rest)
  | s => (false, s)

end Converge.Text
