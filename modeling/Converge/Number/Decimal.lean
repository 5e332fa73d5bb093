import Converge.Number.Double
import Converge.Text.Digit

/-!
# Doubles in decimal

A double is written with the fewest digits that read back to it, and of those with the nearest;
positional from 0.0001 up to 10 000 000 000 000 000, with an exponent of at least two digits
outside. Reading is correct rounding of the written quotient.
-/

namespace Converge.Double

/-- The double nearest to `digits * 10 ^ exponent`. -/
def ofDecimal (negative : Bool) (digits : Nat) (exponent : Int) : Double :=
  if 0 ≤ exponent then ofRatio negative (digits * Nat.pow 10 exponent.toNat) 1
  else ofRatio negative digits (Nat.pow 10 (-exponent).toNat)

/-- The greatest `k` with `10 ^ k ≤ num / den`, counted down from `k + fuel`. -/
def decimalExponent (num den : Nat) : (fuel : Nat) → (k : Int) → Int
  | 0, k => k
  | fuel + 1, k =>
    let top := k + (fuel + 1)
    let fits := if 0 ≤ top then den * Nat.pow 10 top.toNat ≤ num else den ≤ num * Nat.pow 10 (-top).toNat
    if fits then top else decimalExponent num den fuel k

/-- The decimal with so many digits that reads back to the number and is nearest to it. -/
def onGrid (m : Nat) (e : Int) (top : Int) (count : Nat) : Option (Nat × Int) :=
  let step := top - (count - 1)
  let (n, d) := ratio m e
  let (n, d) := if 0 ≤ step then (n, d * Nat.pow 10 step.toNat) else (n * Nat.pow 10 (-step).toNat, d)
  let low := n / d
  let readsBack (c : Nat) := ofDecimal false c step = .finite false m e
  let near := if 2 * (n % d) < d then low else if d < 2 * (n % d) then low + 1 else low + low % 2
  let far := if near = low then low + 1 else low
  if readsBack near then some (near, step) else if readsBack far then some (far, step) else none

/-- The fewest digits, with the power of ten of the last. -/
def shortest (m : Nat) (e : Int) : Nat × Int :=
  let (n, d) := ratio m e
  let bits := binaryExponent n d
  let below := bits * 30103 / 100000 - 2
  let top := decimalExponent n d 4 below
  match (List.range 17).findSome? fun i => onGrid m e top (i + 1) with
  | some found => found
  | none => onGridLast n d (top - 16)
where
  onGridLast (n d : Nat) (step : Int) : Nat × Int :=
    if 0 ≤ step then (roundQuotient n (d * Nat.pow 10 step.toNat), step)
    else (roundQuotient (n * Nat.pow 10 (-step).toNat) d, step)

/-- The digits of a decimal without zeros at its end, with the power of ten of the last. -/
def trimZeros : (fuel : Nat) → Nat × Int → Nat × Int
  | 0, r => r
  | fuel + 1, (c, k) => if c % 10 = 0 then trimZeros fuel (c / 10, k + 1) else (c, k)

/-- Digits with the point, or the exponent, in its place. -/
def place (digits : List Char) (last : Int) : List Char :=
  let count := digits.length
  let first : Int := last + (count - 1)
  if -4 ≤ first ∧ first < 16 then
    if first < 0 then
      ['0', '.'] ++ List.replicate (-first - 1).toNat '0' ++ digits
    else if 0 ≤ last then
      digits ++ List.replicate last.toNat '0' ++ ['.', '0']
    else
      digits.take (first.toNat + 1) ++ '.' :: digits.drop (first.toNat + 1)
  else
    let mantissa := match digits with
      | [d] => [d]
      | d :: rest => d :: '.' :: rest
      | [] => []
    let power := (toString first.natAbs).toList
    let power := if power.length < 2 then '0' :: power else power
    mantissa ++ 'e' :: (if first < 0 then '-' else '+') :: power

def text : Double → String
  | .nan => "nan"
  | .infinite negative => if negative then "-inf" else "inf"
  | .finite negative m e =>
    let body :=
      if m = 0 then ['0', '.', '0']
      else
        let (c, k) := trimZeros 20 (shortest m e)
        place (toString c).toList k
    String.ofList (if negative then '-' :: body else body)

/-- The double nearest to `digits * 10 ^ exponent`, given the number of the digits: beyond certain
powers of ten a decimal is infinite or zero whatever its digits. -/
def ofDecimalBounded (negative : Bool) (count : Nat) (digits : Nat) (exponent : Int) : Double :=
  if digits = 0 then zero negative
  else if 400 < exponent + count then .infinite negative
  else if exponent + count < -400 then zero negative
  else ofDecimal negative digits exponent

/-- The double that prepared characters without a sign write. -/
def readUnsigned (negative : Bool) (s : List Char) : Option Double :=
  let word := String.ofList (s.map Char.toLower)
  if word = "inf" ∨ word = "infinity" then some (.infinite negative)
  else if word = "nan" then some .nan
  else
    let (whole, rest) := Text.takeDigits 10 s
    let (fraction, rest) := match rest with
      | '.' :: rest => Text.takeDigits 10 rest
      | rest => ([], rest)
    if whole.isEmpty && fraction.isEmpty then none
    else
      let written := whole ++ fraction
      let significant := written.dropWhile (· == 0)
      let finish (exponent : Int) :=
        some (ofDecimalBounded negative significant.length (Text.ofDigits 10 significant)
          (exponent - fraction.length))
      match rest with
      | [] => finish 0
      | c :: rest =>
        if c = 'e' ∨ c = 'E' then
          let (minus, rest) := Text.takeSign rest
          let (power, rest) := Text.takeDigits 10 rest
          if power.isEmpty || !rest.isEmpty then none
          else
            let power : Int := min (Text.ofDigits 10 power) (1000000 + written.length)
            finish (if minus then -power else power)
        else none

/-- The double that a text writes: a sign, decimal digits with single underscores between them, a
point and an exponent, or the words for infinity and for what is not a number. -/
def read? (s : String) : Option Double :=
  let (negative, body) := Text.takeSign (Text.numberChars s.toList)
  readUnsigned negative body

end Converge.Double
