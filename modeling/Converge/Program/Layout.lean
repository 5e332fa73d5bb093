import Converge.Program.Numeral

/-!
# Layout of values

How a text or a number is set: with a least width, to the left or the right, with zeros in front,
with a sign or a sign of its base, and with so many digits.
-/

namespace Converge.Program

/-- How a value is set. -/
structure Layout where
  left : Bool
  plus : Bool
  blank : Bool
  /-- The other form of the number, which shows its base or its point. -/
  marked : Bool
  zeros : Bool
  width : Nat
  precision : Option Nat

namespace Layout

/-- Text filled up with blanks. -/
def pad (l : Layout) (s : String) : String :=
  let missing := String.ofList (List.replicate (l.width - s.length) ' ')
  if l.left then s ++ missing else missing ++ s

/-- A text, of which the precision says how much counts. -/
def text (l : Layout) (s : String) : String :=
  l.pad (match l.precision with
    | some n => String.ofList (s.toList.take n)
    | none => s)

def sign (l : Layout) (negative : Bool) : String :=
  if negative then "-" else if l.plus then "+" else if l.blank then " " else ""

/-- A number: its front and its body, with zeros between them where they are asked for. -/
def number (l : Layout) (zeros : Bool) (front body : String) : String :=
  if zeros && !l.left then
    front ++ String.ofList (List.replicate (l.width - front.length - body.length) '0') ++ body
  else l.pad (front ++ body)

/-- The digits of a whole number, at least as many as the precision asks for. -/
def digits (l : Layout) (base n : Nat) : String :=
  let ds := if n = 0 && l.precision = some 0 then [] else Nat.toDigits base n
  String.ofList (List.replicate (l.precision.getD 1 - ds.length) '0' ++ ds)

/-- The values that a word of 64 bits has without a sign. -/
def wordRange : Nat := 18446744073709551616

def whole (l : Layout) (form : Char) (i : Int) : String :=
  let zeros := l.zeros && l.precision.isNone
  let bits := (i % wordRange).toNat
  match form with
  | 'o' =>
    let ds := l.digits 8 bits
    l.number zeros "" (if l.marked && ds.toList.head? != some '0' then "0" ++ ds else ds)
  | 'x' => l.number zeros (if l.marked && bits ≠ 0 then "0x" else "") (l.digits 16 bits)
  | 'X' => l.number zeros (if l.marked && bits ≠ 0 then "0X" else "") (l.digits 16 bits).toUpper
  | 'u' => l.number zeros "" (l.digits 10 bits)
  | _ => l.number zeros (l.sign (i < 0)) (l.digits 10 i.natAbs)

/-- A number of digits with a point before the last so many of them. -/
def pointed (marked : Bool) (places n : Nat) : String :=
  let ds := Nat.toDigits 10 n
  let ds := List.replicate (places + 1 - ds.length) '0' ++ ds
  let front := ds.take (ds.length - places)
  String.ofList (if places = 0 && !marked then front else front ++ '.' :: ds.drop (ds.length - places))

/-- A quotient with so many places behind the point. -/
def fixed (marked : Bool) (places num den : Nat) : String :=
  pointed marked places (Double.roundQuotient (num * Nat.pow 10 places) den)

/-- A quotient as a number of digits and the power of ten of the first of them. -/
def significant (places num den : Nat) : Nat × Int :=
  if num = 0 then (0, 0)
  else
    let below := Double.binaryExponent num den * 30103 / 100000 - 2
    let top := Double.decimalExponent num den 4 below
    let step := top - places
    let n :=
      if 0 ≤ step then Double.roundQuotient num (den * Nat.pow 10 step.toNat)
      else Double.roundQuotient (num * Nat.pow 10 (-step).toNat) den
    if n = Nat.pow 10 (places + 1) then (n / 10, top + 1) else (n, top)

def exponent (e : Int) : String :=
  let ds := Nat.toDigits 10 e.natAbs
  (if e < 0 then "e-" else "e+") ++ String.ofList (List.replicate (2 - ds.length) '0' ++ ds)

def withoutEndZeros (s : String) : String :=
  if s.contains '.' then
    let kept := s.toList.reverse.dropWhile (· == '0')
    String.ofList (match kept with
      | '.' :: rest => rest.reverse
      | kept => kept.reverse)
  else s

def real (l : Layout) (form : Char) (x : Real) : String :=
  let cased (s : String) := if form.isUpper then s.toUpper else s
  match x with
  | .infinite negative => l.pad (l.sign negative ++ cased "inf")
  | .notNumber negative => l.pad (l.sign negative ++ cased "nan")
  | .finite negative num den =>
    let places := l.precision.getD 6
    let body := match form.toLower with
      | 'f' => fixed l.marked places num den
      | 'e' =>
        let (n, e) := significant places num den
        pointed l.marked places n ++ exponent e
      | _ =>
        let count := max places 1
        let (n, e) := significant (count - 1) num den
        let trim (s : String) := if l.marked then s else withoutEndZeros s
        if -4 ≤ e ∧ e < count then trim (fixed l.marked (count - 1 - e).toNat num den)
        else trim (pointed l.marked (count - 1) n) ++ exponent e
    l.number l.zeros (l.sign negative) (cased body)

end Layout

end Converge.Program
