/-!
# Surrogates

An escape can name one of the code points U+D800 to U+DFFF, which are no characters. In a text such
a code point is kept as the private character that lies 0x100000 above it. A text with one of them
has no bytes.

The private characters U+10D800 to U+10DFFF are given up for this: a text cannot hold them for
themselves, and what is said of all texts is said of those that do not. All other code points stand
for themselves.
-/

namespace Converge.Text

/-- How far above a surrogate its private character lies. -/
def surrogateShift : Nat := 0x100000

/-- The code point of a surrogate, from its private character. -/
def surrogate? (c : Char) : Option Nat :=
  if 0x10D800 ≤ c.toNat ∧ c.toNat ≤ 0x10DFFF then some (c.toNat - surrogateShift) else none

def isSurrogate (c : Char) : Bool := (surrogate? c).isSome

/-- The character of a code point, the private one for a surrogate. -/
def charOf (code : Nat) : Char :=
  if 0xD800 ≤ code ∧ code < 0xE000 then Char.ofNat (code + surrogateShift) else Char.ofNat code

/-- The text holds a surrogate. -/
def hasSurrogate (s : String) : Bool := s.toList.any isSurrogate

/-- The text with three replacement characters for each surrogate, one for each of its bytes. -/
def withoutSurrogates (s : String) : String :=
  String.ofList (s.toList.flatMap fun c => if isSurrogate c then List.replicate 3 '\uFFFD' else [c])

/-- Where surrogates keep a text from having bytes: the place of the first of them, and all that
follow it without a character between them. -/
structure EncodeFault where
  start : Nat
  codes : List Nat
deriving DecidableEq, Repr

/-- The byte that stands behind a surrogate from U+DC80 to U+DCFF where bytes are no text. -/
def rawByte? (c : Char) : Option UInt8 :=
  match surrogate? c with
  | some code => if 0xDC80 ≤ code ∧ code ≤ 0xDCFF then some (UInt8.ofNat (code - 0xDC00)) else none
  | none => none

/-- The first surrogate from a place on for which no byte stands, and those that follow it; `raw`
says whether a byte may stand for a surrogate. -/
def firstSurrogates? (raw : Bool) (place : Nat) : List Char → Option EncodeFault
  | [] => none
  | c :: rest =>
    if isSurrogate c && !(raw && (rawByte? c).isSome) then
      some ⟨place, ((c :: rest).takeWhile isSurrogate).filterMap surrogate?⟩
    else firstSurrogates? raw (place + 1) rest

/-- The bytes of a text. -/
def encode (s : String) : Except EncodeFault ByteArray :=
  match firstSurrogates? false 0 s.toList with
  | none => .ok s.toUTF8
  | some fault => .error fault

/-- The bytes of a path or of a word of a command, in which a surrogate can stand for a byte. -/
def encodeRaw (s : String) : Except EncodeFault ByteArray :=
  match firstSurrogates? true 0 s.toList with
  | none => .ok (if hasSurrogate s then ⟨(s.toList.flatMap bytesOf).toArray⟩ else s.toUTF8)
  | some fault => .error fault
where
  /-- The bytes of a character. -/
  bytesOf (c : Char) : List UInt8 :=
    match rawByte? c with
    | some b => [b]
    | none => (String.singleton c).toUTF8.toList

def escapeSurrogates (s : String) : String :=
  String.ofList (s.toList.flatMap fun c =>
    match surrogate? c with
    | some code => '\\' :: 'u' :: Nat.toDigits 16 code
    | none => [c])

/-- A text without surrogates has its bytes. -/
theorem encode_of_not_hasSurrogate {s : String} (h : hasSurrogate s = false) :
    encode s = .ok s.toUTF8 := by
  have none_of : ∀ (l : List Char) (n : Nat), l.any isSurrogate = false →
      firstSurrogates? false n l = none := by
    intro l
    induction l with
    | nil => intro n _; rfl
    | cons c l ih =>
      intro n hl
      simp only [List.any_cons, Bool.or_eq_false_iff] at hl
      simp [firstSurrogates?, hl.1, ih (n + 1) hl.2]
  simp [encode, none_of _ 0 h]

/-- The wording of a refusal. -/
def EncodeFault.message (f : EncodeFault) : String :=
  let what := match f.codes with
    | [code] =>
      "character '\\u" ++ String.ofList (Nat.toDigits 16 code) ++ "' in position " ++ toString f.start
    | codes =>
      "characters in position " ++ toString f.start ++ "-" ++ toString (f.start + codes.length - 1)
  "'utf-8' codec can't encode " ++ what ++ ": surrogates not allowed"

end Converge.Text
