import Converge.Number.Decimal

/-!
# Numerals

Numerals at the front of a text: whole numbers with a sign and a base that their first digits say,
and real numbers with a point and an exponent. What follows a numeral is returned with it.
-/

namespace Converge.Program

def isNumeralBlank (c : Char) : Bool := c == ' ' || (9 ≤ c.toNat && c.toNat ≤ 13)

/-- The digits at the front and what follows them; nothing may stand between two digits. -/
def takePlainDigits (base : Nat) : List Char → List Nat × List Char
  | [] => ([], [])
  | c :: rest =>
    match Text.digitOf? base c with
    | some d =>
      let (ds, tail) := takePlainDigits base rest
      (d :: ds, tail)
    | none => ([], c :: rest)

/-- The number without a sign at the front of a text, in the base that `0x` or `0` says. -/
def takeNatural (s : List Char) : Option Nat × List Char :=
  let read (base : Nat) (s : List Char) : Option Nat × List Char :=
    match takePlainDigits base s with
    | ([], rest) => (none, rest)
    | (ds, rest) => (some (Text.ofDigits base ds), rest)
  match s with
  | '0' :: x :: rest =>
    if x == 'x' || x == 'X' then
      match read 16 rest with
      | (none, _) => (some 0, x :: rest)
      | found => found
    else read 8 s
  | s => read 10 s

/-- The whole number at the front of a text, behind blanks and a sign. -/
def takeWhole (s : List Char) : Option Int × List Char :=
  let (negative, body) := Text.takeSign (s.dropWhile isNumeralBlank)
  match takeNatural body with
  | (some n, rest) => (some (if negative then -(n : Int) else n), rest)
  | (none, _) => (none, s)

def factorOf? (letters : String) : Option Nat :=
  match letters with
  | "" => some 1
  | "b" => some 512
  | "k" | "K" | "KiB" => some 1024
  | "kB" | "KB" => some 1000
  | "m" | "M" | "MiB" => some 1048576
  | "MB" => some 1000000
  | _ => none

/-- A real number: a quotient with a sign, or none. -/
inductive Real where
  | finite (negative : Bool) (num den : Nat)
  | infinite (negative : Bool)
  | notNumber (negative : Bool)

namespace Real

/-- The number with so many significant bits that is nearest to a quotient. -/
def rounded (bits : Nat) (negative : Bool) (num den : Nat) : Real :=
  if num = 0 then .finite negative 0 1
  else
    let exponent := Double.binaryExponent num den - (bits - 1 : Nat)
    if 0 ≤ exponent then
      let unit := Nat.pow 2 exponent.toNat
      .finite negative (Double.roundQuotient num (den * unit) * unit) 1
    else
      let unit := Nat.pow 2 (-exponent).toNat
      .finite negative (Double.roundQuotient (num * unit) den) unit

/-- The word at the front, in any case, and what follows it. -/
def takeWord? (word : List Char) (s : List Char) : Option (List Char) :=
  if (s.take word.length).map Char.toLower = word then some (s.drop word.length) else none

/-- A power at the front: a letter, a sign and digits. -/
def takePower (letters : List Char) (s : List Char) : Int × List Char :=
  match s with
  | c :: rest =>
    if letters.contains c then
      let (negative, body) := Text.takeSign rest
      match takePlainDigits 10 body with
      | ([], _) => (0, s)
      | (ds, rest) =>
        let n : Int := min (Text.ofDigits 10 ds) 20000
        (if negative then -n else n, rest)
    else (0, s)
  | [] => (0, [])

/-- The digits at the front with a point among them: their number, how many stand behind the point,
and what follows; none where there is no digit. -/
def takePointed (base : Nat) (s : List Char) : Option (Nat × Nat × List Char) :=
  let (whole, rest) := takePlainDigits base s
  let (fraction, rest) := match rest with
    | '.' :: tail =>
      let (fraction, tail) := takePlainDigits base tail
      if whole.isEmpty && fraction.isEmpty then ([], rest) else (fraction, tail)
    | rest => ([], rest)
  if whole.isEmpty && fraction.isEmpty then none
  else some (Text.ofDigits base (whole ++ fraction), fraction.length, rest)

/-- The real number at the front of a text, with so many significant bits; none where the text
begins with no number. -/
def take? (bits : Nat) (s : List Char) : Option Real × List Char :=
  let (negative, body) := Text.takeSign (s.dropWhile isNumeralBlank)
  let scaled (base : Nat) (digits : Nat) (power : Int) : Real :=
    if 0 ≤ power then rounded bits negative (digits * Nat.pow base power.toNat) 1
    else rounded bits negative digits (Nat.pow base (-power).toNat)
  let decimal : Option Real × List Char :=
    match takePointed 10 body with
    | none => (none, s)
    | some (digits, places, rest) =>
      let (power, rest) := takePower ['e', 'E'] rest
      (some (scaled 10 digits (power - places)), rest)
  match takeWord? "infinity".toList body, takeWord? "inf".toList body, takeWord? "nan".toList body with
  | some rest, _, _ | none, some rest, _ => (some (.infinite negative), rest)
  | none, none, some rest => (some (.notNumber negative), rest)
  | none, none, none =>
    match takeWord? "0x".toList body with
    | none => decimal
    | some hex =>
      match takePointed 16 hex with
      | none => decimal
      | some (digits, places, rest) =>
        let (power, rest) := takePower ['p', 'P'] rest
        (some (scaled 2 digits (power - 4 * places)), rest)

end Real

end Converge.Program
