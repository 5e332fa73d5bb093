/-!
# Base 64

Three bytes are four letters. Written text is padded to a multiple of four and cut into lines of 76
letters; reading passes over every other character and stops where the padding is complete.
-/

namespace Converge.Text

/-- The letter of six bits. -/
def base64Letter (n : Nat) : Char :=
  if n < 26 then Char.ofNat (65 + n)
  else if n < 52 then Char.ofNat (71 + n)
  else if n < 62 then Char.ofNat (n - 4)
  else if n = 62 then '+' else '/'

/-- The six bits of a letter. -/
def base64Value? (c : Char) : Option Nat :=
  let n := c.toNat
  if 'A' ≤ c ∧ c ≤ 'Z' then some (n - 65)
  else if 'a' ≤ c ∧ c ≤ 'z' then some (n - 71)
  else if '0' ≤ c ∧ c ≤ '9' then some (n + 4)
  else if c = '+' then some 62
  else if c = '/' then some 63
  else none

/-- The letters of bytes, padded. -/
def base64Letters : List UInt8 → List Char
  | a :: b :: c :: rest =>
    let n := a.toNat * 65536 + b.toNat * 256 + c.toNat
    base64Letter (n / 262144) :: base64Letter (n / 4096 % 64) :: base64Letter (n / 64 % 64) ::
      base64Letter (n % 64) :: base64Letters rest
  | [a, b] =>
    let n := a.toNat * 1024 + b.toNat * 4
    [base64Letter (n / 4096), base64Letter (n / 64 % 64), base64Letter (n % 64), '=']
  | [a] =>
    let n := a.toNat * 16
    [base64Letter (n / 64), base64Letter (n % 64), '=', '=']
  | [] => []

/-- Bytes as lines of 76 letters, each with its line feed; `column` letters stand on the current
line. -/
def base64Lines (column : Nat) : List Char → List Char
  | [] => if column = 0 then [] else ['\n']
  | c :: rest => if column = 76 then '\n' :: c :: base64Lines 1 rest else c :: base64Lines (column + 1) rest

/-- The written form of bytes. -/
def base64Encode (bytes : ByteArray) : List Char :=
  base64Lines 0 (base64Letters bytes.toList)

/-- Where reading stands: the letters of the unfinished group, how many marks of padding have been
read since the last letter, and the bytes in reverse. -/
structure Base64State where
  group : List Nat
  padding : Nat
  bytes : List UInt8

/-- The bytes that the letters write; none when the last group is unfinished. -/
def base64From (state : Base64State) : List Char → Option (List UInt8)
  | [] => if state.group.isEmpty then some state.bytes.reverse else none
  | c :: rest =>
    if c = '=' then
      if 2 ≤ state.group.length then
        if 4 ≤ state.group.length + state.padding + 1 then some state.bytes.reverse
        else base64From { state with padding := state.padding + 1 } rest
      else base64From state rest
    else match base64Value? c with
      | none => base64From state rest
      | some v =>
        let byte (n : Nat) := UInt8.ofNat (n % 256)
        match state.group with
        | [] => base64From ⟨[v], 0, state.bytes⟩ rest
        | [a] => base64From ⟨[a, v], 0, byte (a * 4 + v / 16) :: state.bytes⟩ rest
        | [a, b] => base64From ⟨[a, b, v], 0, byte (b * 16 + v / 4) :: state.bytes⟩ rest
        | _ :: _ :: d :: _ => base64From ⟨[], 0, byte (d * 64 + v) :: state.bytes⟩ rest

/-- The bytes of a written form. -/
def base64Decode? (s : List Char) : Option ByteArray :=
  (base64From ⟨[], 0, []⟩ s).map fun bytes => ⟨bytes.toArray⟩

end Converge.Text
