import Converge.Program.Format
import Converge.Program.Options

/-!
# Rows of numbers

The program that prints the numbers from one to another, in the form of its arguments or in a format
that is given. The numbers are counted in units of the last place of all arguments.
-/

namespace Converge.Program

open Job

/-- A number of a row: so many of its units of the last place, and its places. -/
structure Measure where
  units : Int
  places : Nat

/-- The units of a number in places of which it has no more. -/
def Measure.scaled (m : Measure) (places : Nat) : Int := m.units * (Nat.pow 10 (places - m.places) : Nat)

/-- An argument of a row: its number, how many places it shows, none for a number in base sixteen
that has a point, and how wide it is. -/
structure RowEnd where
  number : Measure
  places : Option Nat
  width : Nat

def rowEnd? (word : String) : Option RowEnd :=
  match Real.take? 64 word.toList with
  | (some (.finite negative num den), []) =>
    let cs := word.toList.dropWhile isNumeralBlank
    let sign (n : Nat) : Int := if negative then -(n : Int) else n
    if cs.any fun c => c == 'x' || c == 'X' then
      if cs.any fun c => c == '.' || c == 'p' || c == 'P' then
        let places := 12
        some ⟨⟨sign (num * Nat.pow 10 places / den), places⟩, none, 0⟩
      else some ⟨⟨sign (num / den), 0⟩, some 0, 0⟩
    else
      let (_, body) := Text.takeSign cs
      let mantissa := body.takeWhile fun c => c != 'e' && c != 'E'
      let power := (Real.takePower ['e', 'E'] (body.drop mantissa.length)).1
      let (whole, rest) := takePlainDigits 10 mantissa
      let fraction := (takePlainDigits 10 (rest.drop 1)).1
      let digits := Text.ofDigits 10 (whole ++ fraction)
      let places := (fraction.length - power).toNat
      let extra := (power - fraction.length).toNat
      let wholeWidth := max 1 (whole.length + power).toNat
      let width := (if negative then 1 else 0) + wholeWidth + (if places = 0 then 0 else places + 1)
      some ⟨⟨sign (digits * Nat.pow 10 extra), places⟩, some places, width⟩
  | _ => none

def row (step last : Int) : (fuel : Nat) → Int → List Int
  | 0, _ => []
  | fuel + 1, i =>
    if (0 < step && last < i) || (step < 0 && i < last) then [] else i :: row step last fuel (i + step)

/-- The arguments of a row, with numbers below zero kept from being options. -/
def rowArguments (arguments : List String) : List String × List String :=
  let isNumber (word : String) : Bool :=
    match word.toList with
    | '-' :: c :: _ => c.isDigit || c == '.'
    | _ => false
  let front := arguments.takeWhile fun a => !isNumber a
  (front, arguments.drop front.length)

/-- A format for numbers: a directive, and the text on both of its sides. -/
structure RowFormat where
  front : String
  layout : Layout
  letter : Char
  behind : String

/-- The text up to a sign of percentage, two of which are one in it, and what follows that sign. -/
def upToPercent : List Char → List Char × Option (List Char)
  | [] => ([], none)
  | '%' :: '%' :: rest =>
    let (text, found) := upToPercent rest
    ('%' :: text, found)
  | '%' :: rest => ([], some rest)
  | c :: rest =>
    let (text, found) := upToPercent rest
    (c :: text, found)

/-- The format that a word writes, or what is wrong with it. -/
def rowFormat (word : String) : Except String RowFormat :=
  let wrong {α : Type} (words : String) : Except String α := .error ("format " ++ marked word ++ " " ++ words)
  match upToPercent word.toList with
  | (_, none) => wrong "has no % directive"
  | (front, some rest) =>
    let flags := rest.takeWhile fun c => "-+#0 '".contains c
    let (width, rest) := takePlainDigits 10 (rest.drop flags.length)
    let (precision, rest) : Option Nat × List Char := match rest with
      | '.' :: rest =>
        let (ds, rest) := takePlainDigits 10 rest
        (some (Text.ofDigits 10 ds), rest)
      | rest => (none, rest)
    let rest := if rest.head? == some 'L' then rest.drop 1 else rest
    match rest with
    | [] => wrong "ends in %"
    | letter :: rest =>
      if !"efgaEFGA".contains letter then wrong ("has unknown %" ++ String.singleton letter ++ " directive")
      else match upToPercent rest with
        | (_, some _) => wrong "has too many % directives"
        | (behind, none) =>
          .ok ⟨String.ofList front,
            ⟨flags.contains '-', flags.contains '+', flags.contains ' ', flags.contains '#',
              flags.contains '0', Text.ofDigits 10 width, precision⟩,
            letter, String.ofList behind⟩

def RowFormat.write (f : RowFormat) (m : Measure) : String :=
  let x : Real := .finite (m.units < 0) m.units.natAbs (Nat.pow 10 m.places)
  f.front ++ f.layout.real f.letter x ++ f.behind

def usualFormat (equalWidth : Bool) (first step last : RowEnd) : RowFormat :=
  let bare : Layout := ⟨false, false, false, false, false, 0, none⟩
  match first.places, step.places, last.places with
  | some a, some b, some c =>
    let places := max a b
    let firstWidth := first.width + (places - a) + (if a = 0 && places ≠ 0 then 1 else 0)
    let lastWidth := last.width - (c - places) + (places - c)
    let lastWidth :=
      if c ≠ 0 && places = 0 then lastWidth - 1
      else if c = 0 && places ≠ 0 then lastWidth + 1 else lastWidth
    let width := if equalWidth then max firstWidth lastWidth else 0
    ⟨"", { bare with zeros := true, width, precision := some places }, 'f', ""⟩
  | _, _, _ => ⟨"", bare, 'g', ""⟩

/-- The program that prints a row of numbers. -/
def seq (arguments : List String) : Job Unit := do
  let (front, numbers) := rowArguments arguments
  let (given, words) ← options
    [.value 'f' "format", .value 's' "separator", .flag 'w' "equal-width"] front 1 false
  let words := words ++ numbers
  let read (word : String) : Job RowEnd :=
    match rowEnd? word with
    | some m => return m
    | none => misuse ("invalid floating point argument: " ++ marked word)
  match words with
  | [] => misuse "missing operand"
  | _ :: _ :: _ :: extra :: _ => misuse ("extra operand " ++ marked extra)
  | words =>
    let format : Option RowFormat ← match valueOf given 'f' with
      | none => pure none
      | some word => match rowFormat word with
        | .ok f => pure (some f)
        | .error words => refuse words
    if format.isSome && isGiven given 'w' then
      misuse "format string may not be specified when printing equal width strings"
    let found ← words.mapM read
    let one : RowEnd := ⟨⟨1, 0⟩, some 0, 1⟩
    let (first, step, last) := match found with
      | [last] => (one, one, last)
      | [first, last] => (first, one, last)
      | first :: step :: last :: _ => (first, step, last)
      | [] => (one, one, one)
    if step.number.units = 0 then
      misuse ("invalid Zero increment value: " ++ marked ((words.drop 1).headD ""))
    let f := format.getD (usualFormat (isGiven given 'w') first step last)
    let places := max first.number.places (max step.number.places last.number.places)
    let scaled (e : RowEnd) : Int := e.number.scaled places
    let texts := (row (scaled step) (scaled last) 200000 (scaled first)).map fun i => f.write ⟨i, places⟩
    let joint := (valueOf given 's').getD "\n"
    if !texts.isEmpty then sayLine (joint.intercalate texts)

end Converge.Program
