import Converge.Program.Numeral

/-!
# Classes of characters

The named classes of characters that sets and patterns may ask for; only the characters of ASCII
belong to any.
-/

namespace Converge.Program

def classOf? (name : String) : Option (List Char) :=
  let ascii := (List.range 128).map Char.ofNat
  match name with
  | "lower" => some (ascii.filter Char.isLower)
  | "upper" => some (ascii.filter Char.isUpper)
  | "digit" => some (ascii.filter Char.isDigit)
  | "alpha" => some (ascii.filter Char.isAlpha)
  | "alnum" => some (ascii.filter Char.isAlphanum)
  | "space" => some (ascii.filter isNumeralBlank)
  | "blank" => some ['\t', ' ']
  | "punct" => some (ascii.filter fun c => 33 ≤ c.toNat && c.toNat ≤ 126 && !c.isAlphanum)
  | "cntrl" => some (ascii.filter fun c => c.toNat < 32 || c.toNat == 127)
  | "print" => some (ascii.filter fun c => 32 ≤ c.toNat && c.toNat ≤ 126)
  | "graph" => some (ascii.filter fun c => 33 ≤ c.toNat && c.toNat ≤ 126)
  | "xdigit" => some (ascii.filter fun c => (Text.digitOf? 16 c).isSome)
  | _ => none

end Converge.Program
