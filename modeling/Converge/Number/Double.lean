/-!
# Double precision

A binary number of 53 significant bits, kept as its sign, mantissa and exponent, so that every
operation is exact arithmetic followed by one rounding. Rounding goes to the nearest such number,
a half to the even mantissa. `Double.ofRatio` is the only place that rounds.
-/

namespace Converge

/-- A finite number is `mantissa * 2 ^ exponent`: the mantissa is below `2 ^ 53`, and at least
`2 ^ 52` unless the exponent is the least, -1074. Zero has exponent 0. -/
inductive Double where
  | finite (negative : Bool) (mantissa : Nat) (exponent : Int)
  | infinite (negative : Bool)
  | nan
deriving DecidableEq, Repr, Inhabited

namespace Double

def zero (negative : Bool) : Double := .finite negative 0 0

/-- A quotient rounded to the nearest whole number, a half to the even one. -/
def roundQuotient (num den : Nat) : Nat :=
  let q := num / den
  let r := num % den
  if 2 * r < den then q else if den < 2 * r then q + 1 else q + q % 2

/-- The greatest `e` with `2 ^ e ≤ num / den`, for positive numbers. -/
def binaryExponent (num den : Nat) : Int :=
  let guess : Int := (num.log2 : Int) - den.log2
  let fits := if 0 ≤ guess then den * Nat.pow 2 guess.toNat ≤ num else den ≤ num * Nat.pow 2 (-guess).toNat
  if fits then guess else guess - 1

/-- The double nearest to a quotient. -/
def ofRatio (negative : Bool) (num den : Nat) : Double :=
  if num = 0 then zero negative
  else
    let exponent := max (binaryExponent num den - 52) (-1074)
    let mantissa :=
      if 0 ≤ exponent then roundQuotient num (den * Nat.pow 2 exponent.toNat)
      else roundQuotient (num * Nat.pow 2 (-exponent).toNat) den
    let (mantissa, exponent) :=
      if mantissa = Nat.pow 2 53 then (Nat.pow 2 52, exponent + 1) else (mantissa, exponent)
    if mantissa = 0 then zero negative
    else if 971 < exponent then .infinite negative
    else .finite negative mantissa exponent

/-- The magnitude of a finite number as a quotient. -/
def ratio (mantissa : Nat) (exponent : Int) : Nat × Nat :=
  if 0 ≤ exponent then (mantissa * Nat.pow 2 exponent.toNat, 1) else (mantissa, Nat.pow 2 (-exponent).toNat)

/-- The double nearest to a whole number. -/
def ofInt (i : Int) : Double := ofRatio (i < 0) i.natAbs 1

/-- The number with the other sign. -/
def neg : Double → Double
  | .finite s m e => .finite (!s) m e
  | .infinite s => .infinite (!s)
  | .nan => .nan

/-- The sum, rounded. -/
def add : Double → Double → Double
  | .nan, _ => .nan
  | _, .nan => .nan
  | .infinite a, .infinite b => if a = b then .infinite a else .nan
  | .infinite a, _ => .infinite a
  | _, .infinite b => .infinite b
  | .finite sa ma ea, .finite sb mb eb =>
    let (na, da) := ratio ma ea
    let (nb, db) := ratio mb eb
    let signed (s : Bool) (n : Nat) : Int := if s then -n else n
    let sum := signed sa (na * db) + signed sb (nb * da)
    if sum = 0 then zero (sa && sb) else ofRatio (sum < 0) sum.natAbs (da * db)

/-- The product, rounded. -/
def mul : Double → Double → Double
  | .nan, _ => .nan
  | _, .nan => .nan
  | .infinite a, .infinite b => .infinite (a != b)
  | .infinite a, .finite b m _ => if m = 0 then .nan else .infinite (a != b)
  | .finite a m _, .infinite b => if m = 0 then .nan else .infinite (a != b)
  | .finite sa ma ea, .finite sb mb eb =>
    let (na, da) := ratio ma ea
    let (nb, db) := ratio mb eb
    ofRatio (sa != sb) (na * nb) (da * db)

/-- The number without its fraction. -/
def truncate? : Double → Option Int
  | .finite s m e =>
    let (n, d) := ratio m e
    some (if s then -((n / d : Nat) : Int) else (n / d : Nat))
  | _ => none

/-- The number, when it is whole. -/
def toInt? : Double → Option Int
  | .finite s m e =>
    let (n, d) := ratio m e
    if n % d = 0 then some (if s then -((n / d : Nat) : Int) else (n / d : Nat)) else none
  | _ => none

/-- Neither zero has a sign in a comparison, and nothing equals what is not a number. -/
def sameValue : Double → Double → Bool
  | .nan, _ => false
  | _, .nan => false
  | .finite sa ma ea, .finite sb mb eb => ma == mb && (ma == 0 || (sa == sb && ea == eb))
  | .infinite a, .infinite b => a == b
  | _, _ => false

def isZero : Double → Bool
  | .finite _ m _ => m == 0
  | _ => false

end Double

end Converge
