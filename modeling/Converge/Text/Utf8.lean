/-!
# Reading UTF-8

Bytes are read as UTF-8 or refused at the first place where no character can be read, with what is
wrong there. `decode_toUTF8` says that text comes back from its bytes.
-/

namespace Converge.Text

/-- Why no character can be read at a place. -/
inductive Utf8Reason where
  /-- No character begins with this byte. -/
  | invalidStart
  /-- A byte of the character is not one that may go on. -/
  | invalidContinuation
  /-- The bytes end inside the character. -/
  | endOfData
deriving DecidableEq, Repr

/-- The place, the number of bytes and the reason of a refusal; `lead` is the byte at the place. -/
structure Utf8Fault where
  start : Nat
  length : Nat
  lead : UInt8
  reason : Utf8Reason
deriving DecidableEq, Repr

namespace Utf8

/-- A byte that may go on a character. -/
def isContinuation (b : UInt8) : Bool := 0x80 ≤ b && b < 0xC0

/-- The second byte fits the first: no overlong form, no surrogate, nothing above U+10FFFF. -/
def secondFits (lead b : UInt8) : Bool :=
  isContinuation b &&
    (if lead = 0xE0 then 0xA0 ≤ b
     else if lead = 0xED then b < 0xA0
     else if lead = 0xF0 then 0x90 ≤ b
     else if lead = 0xF4 then b < 0x90
     else true)

/-- How many bytes a character has that begins with this one; `0` when none does. -/
def width (lead : UInt8) : Nat :=
  if lead < 0x80 then 1
  else if lead < 0xC2 then 0
  else if lead < 0xE0 then 2
  else if lead < 0xF0 then 3
  else if lead < 0xF5 then 4
  else 0

/-- The width of the character at the front of the bytes, or how many bytes are at fault and why. -/
def front (lead : UInt8) (rest : List UInt8) : Except (Nat × Utf8Reason) Nat :=
  match width lead, rest with
  | 0, _ => .error (1, .invalidStart)
  | 1, _ => .ok 1
  | n + 1, [] => .error (1, if n = 0 then .invalidStart else .endOfData)
  | n + 1, b :: rest =>
    if !secondFits lead b then .error (1, .invalidContinuation)
    else match n, rest with
      | 1, _ => .ok 2
      | _, [] => .error (2, .endOfData)
      | m, c :: rest =>
        if !isContinuation c then .error (2, .invalidContinuation)
        else match m, rest with
          | 2, _ => .ok 3
          | _, [] => .error (3, .endOfData)
          | _, d :: _ => if isContinuation d then .ok 4 else .error (3, .invalidContinuation)

/-- The first place, counted from `position`, where no character can be read. -/
def firstFault? : Nat → Nat → List UInt8 → Option Utf8Fault
  | 0, _, _ => none
  | _, _, [] => none
  | fuel + 1, position, lead :: rest =>
    match front lead rest with
    | .ok n => firstFault? fuel (position + n) (rest.drop (n - 1))
    | .error (length, reason) => some ⟨position, length, lead, reason⟩

end Utf8

/-- The text of the bytes, or the first place where they are not UTF-8. -/
def decode (bytes : ByteArray) : Except Utf8Fault String :=
  match String.fromUTF8? bytes with
  | some s => .ok s
  | none =>
    match Utf8.firstFault? bytes.size 0 bytes.toList with
    | some fault => .error fault
    | none => .error ⟨0, 0, 0, .invalidStart⟩

/-- Text comes back from its bytes. -/
theorem decode_toUTF8 (s : String) : decode s.toUTF8 = .ok s := by
  have h : String.fromUTF8? s.toUTF8 = some s := by
    unfold String.fromUTF8?
    rw [String.toUTF8_eq_toByteArray, dif_pos s.isValidUTF8]
    rfl
  unfold decode
  rw [h]

private def hexDigit (n : Nat) : Char := (Nat.digitChar n)

/-- The wording of a refusal. -/
def Utf8Fault.message (f : Utf8Fault) : String :=
  let what :=
    if f.length = 1 then
      "byte 0x" ++ String.ofList [hexDigit (f.lead.toNat / 16), hexDigit (f.lead.toNat % 16)] ++
        " in position " ++ toString f.start
    else "bytes in position " ++ toString f.start ++ "-" ++ toString (f.start + f.length - 1)
  let why := match f.reason with
    | .invalidStart => "invalid start byte"
    | .invalidContinuation => "invalid continuation byte"
    | .endOfData => "unexpected end of data"
  "'utf-8' codec can't decode " ++ what ++ ": " ++ why

end Converge.Text
