import Converge.Digest
import Converge.Program.Lines
import Converge.Text.Base64

/-!
# Digests and letters for bytes

The programs that write bytes in base sixty-four and read them again, and the one that tells digests
of files and checks those that were told before.
-/

namespace Converge.Program

open Job

/-! ## Base sixty-four -/

/-- Lines of at most so many characters; zero stands for no limit. -/
def wrapped (width : Nat) (cs : List Char) : String :=
  if cs.isEmpty then ""
  else if width = 0 then String.ofList cs
  else String.join ((lines cs.length cs).map fun line => String.ofList line ++ "\n")
where
  /-- Pieces of the width. -/
  lines : (fuel : Nat) → List Char → List (List Char)
    | 0, _ => []
    | _, [] => []
    | fuel + 1, cs => cs.take width :: lines fuel (cs.drop width)

/-- The bytes that letters write up to a fault, in groups of four of which the last may be short, and
whether there is none. -/
def lettersRead : (fuel : Nat) → List Char → List Char × Bool
  | 0, _ | _, [] => ([], true)
  | fuel + 1, cs =>
    let byte (n : Nat) : Char := Char.ofNat (n % 256)
    let go (found rest : List Char) : List Char × Bool :=
      let (more, isWhole) := lettersRead fuel rest
      (found ++ more, isWhole)
    let values := ((cs.take 4).takeWhile fun c => (Text.base64Value? c).isSome).filterMap Text.base64Value?
    match values, cs.drop values.length with
    | [a, b, c, d], rest => go [byte (a * 4 + b / 16), byte (b * 16 + c / 4), byte (c * 64 + d)] rest
    | [a, b, c], '=' :: rest => go [byte (a * 4 + b / 16), byte (b * 16 + c / 4)] rest
    | [a, b, c], rest => ([byte (a * 4 + b / 16), byte (b * 16 + c / 4)], rest.isEmpty)
    | [a, b], '=' :: '=' :: rest => go [byte (a * 4 + b / 16)] rest
    | [a, b], rest => ([byte (a * 4 + b / 16)], rest.isEmpty)
    | _, _ => ([], false)

/-- The program that writes bytes in base sixty-four, and reads them. -/
def base64 (arguments : List String) : Job Unit := do
  let (given, paths) ← options
    [.flag 'd' "decode", .flag 'D', .flag 'i' "ignore-garbage", .value 'w' "wrap"] arguments
  let width ← match valueOf given 'w' with
    | none => pure 76
    | some word =>
      if word != "" && word.all Char.isDigit then pure ((word.toNat?).getD 0)
      else refuse ("invalid wrap size: " ++ marked word)
  if let some extra := (paths.drop 1).head? then misuse ("extra operand " ++ marked extra)
  match ← source (paths.headD "-") with
  | .error .isDirectory => refuse "read error: Is a directory"
  | .error errno => refuse (headName (paths.headD "-") ++ ": " ++ errno.text)
  | .ok text =>
    if isGiven given 'd' || isGiven given 'D' then
      let isLetter (c : Char) : Bool := c == '=' || (Text.base64Value? c).isSome
      let letters := text.toList.filter fun c => c != '\n' && (isLetter c || !isGiven given 'i')
      let (bytes, isWhole) := lettersRead (letters.length + 1) letters
      say (String.ofList bytes)
      if !isWhole then refuse "invalid input"
    else say (wrapped width (Text.base64Letters (Text.ofOctets text)))

/-! ## Digests -/

def digestOf (text : String) : String := Digest.sha256 ⟨(Text.ofOctets text).toArray⟩

def toldDigest? (line : String) : Option (String × String) :=
  let isDigest (s : String) : Bool := s.length = 64 && s.all fun c => (Text.digitOf? 16 c).isSome
  let cs := line.toList
  let digest := String.ofList (cs.take 64)
  match cs.drop 64 with
  | ' ' :: mark :: c :: name =>
    if isDigest digest && (mark == ' ' || mark == '*') then some (digest, String.ofList (c :: name)) else none
  | _ =>
    if line.startsWith "SHA256 (" then
      match (line.splitOn ") = ").reverse with
      | last :: front =>
        if isDigest last && !front.isEmpty then
          some (last, String.ofList ((") = ".intercalate front.reverse).toList.drop 8))
        else none
      | [] => none
    else none

/-- How digests are checked. -/
structure Checking where
  quiet : Bool
  silent : Bool
  warns : Bool
  strict : Bool
  passes : Bool

/-- What has come of a check. -/
structure Checked where
  good : Nat
  wrong : Nat
  unread : Nat
  malformed : Nat

def warnAbout (count : Nat) (one many : String) : Job Unit := do
  if count ≠ 0 then complain ("WARNING: " ++ toString count ++ " " ++ if count = 1 then one else many)

def Checking.check (k : Checking) (name text : String) : Job Unit := do
  let mut found : Checked := ⟨0, 0, 0, 0⟩
  for (line, i) in (linesOf text).zipIdx do
    match toldDigest? (chomped line) with
    | none =>
      found := { found with malformed := found.malformed + 1 }
      if k.warns then
        complain (name ++ ": " ++ toString (i + 1) ++ ": improperly formatted SHA256 checksum line")
    | some (digest, path) =>
      let shown := plainName path
      match ← source path with
      | .error errno =>
        if errno = .noEntry && k.passes then pure ()
        else
          complain (headName path ++ ": " ++ errno.text)
          if !k.silent then sayLine (shown ++ ": FAILED open or read")
          found := { found with unread := found.unread + 1 }
      | .ok text =>
        if digestOf text == digest.map Char.toLower then
          if !k.silent && !k.quiet then sayLine (shown ++ ": OK")
          found := { found with good := found.good + 1 }
        else
          if !k.silent then sayLine (shown ++ ": FAILED")
          found := { found with wrong := found.wrong + 1 }
  if found.good + found.wrong + found.unread = 0 && !k.passes then
    fault (name ++ ": no properly formatted checksum lines found")
  else
    if !k.silent then
      warnAbout found.malformed "line is improperly formatted" "lines are improperly formatted"
      warnAbout found.unread "listed file could not be read" "listed files could not be read"
      warnAbout found.wrong "computed checksum did NOT match" "computed checksums did NOT match"
    if found.wrong ≠ 0 || found.unread ≠ 0 || (k.strict && found.malformed ≠ 0) then settle 1
    if k.passes && found.good + found.wrong = 0 then fault (name ++ ": no file was verified")

/-- The program that tells digests of its inputs, or checks them. -/
def sha256sum (arguments : List String) : Job Unit := do
  let (given, paths) ← options
    [.flag 'b' "binary", .flag 't' "text", .flag 'c' "check", .flag 'w' "warn", .flag 'z' "zero",
      .onlyLong 'T' "tag", .onlyLong 'q' "quiet", .onlyLong 's' "status", .onlyLong 'S' "strict",
      .onlyLong 'm' "ignore-missing"] arguments
  let has (c : Char) : Bool := isGiven given c
  for path in inputsOf paths do
    let shown := if path == "-" then "'standard input'" else headName path
    match ← source path with
    | .error errno => fault (headName path ++ ": " ++ errno.text)
    | .ok text =>
      if has 'c' then Checking.check ⟨has 'q', has 's', has 'w', has 'S', has 'm'⟩ shown text
      else
        let line := if has 'T' then "SHA256 (" ++ path ++ ") = " ++ digestOf text
          else digestOf text ++ (if has 'b' then " *" else "  ") ++ path
        say (line ++ if has 'z' then "\x00" else "\n")

end Converge.Program
