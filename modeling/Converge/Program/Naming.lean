import Converge.Text.Octets

/-!
# Names in complaints

A name in a complaint stands between curly quotation marks, or is written so that a shell reads it
as one word: plainly where that is clear, between quotation marks otherwise.
-/

namespace Converge.Program

/-- A name between curly quotation marks. -/
def marked (s : String) : String := Text.octetsOf "‘" ++ s ++ Text.octetsOf "’"

/-- A character that a shell reads as itself wherever it stands. -/
def isClear (c : Char) : Bool :=
  c.isAlphanum || 128 ≤ c.toNat || "%+,-./:=@_]\x7b\x7d".contains c

/-- A byte that cannot be shown. -/
def isHidden (c : Char) : Bool := c.toNat < 32 || c.toNat == 127

/-- How a byte that cannot be shown is written. -/
def hiddenForm (c : Char) : String :=
  match c with
  | '\x07' => "\\a"
  | '\x08' => "\\b"
  | '\t' => "\\t"
  | '\n' => "\\n"
  | '\x0b' => "\\v"
  | '\x0c' => "\\f"
  | '\r' => "\\r"
  | c =>
    let digits := Nat.toDigits 8 c.toNat
    "\\" ++ String.ofList (List.replicate (3 - digits.length) '0' ++ digits)

/-- The name between quotation marks, with those inside of it and what cannot be shown set apart;
`hidden` says that the part before was one that cannot be shown. -/
def quotedParts : (hidden : Bool) → List Char → String
  | _, [] => "'"
  | hidden, c :: rest =>
    if isHidden c then (if hidden then "" else "'$'") ++ hiddenForm c ++ quotedParts true rest
    else
      (if hidden then "''" else "") ++ (if c == '\'' then "'\\''" else String.singleton c) ++
        quotedParts false rest

/-- The name as one word of a shell, always between quotation marks. -/
def quotedName (s : String) : String :=
  let cs := s.toList
  if cs.contains '\'' && !cs.any (fun c => isHidden c || "\"$\\!".contains c || c.toNat == 96) then
    "\"" ++ s ++ "\""
  else "'" ++ quotedParts false cs

/-- The name is clear to a shell without quotation marks. -/
def isClearName (cs : List Char) : Bool :=
  match cs with
  | [] => false
  | [c] => isClear c && c != '\x7b' && c != '\x7d'
  | c :: rest => isClear c && rest.all fun c => isClear c || c == '#' || c == '~'

def plainName (s : String) : String := if isClearName s.toList then s else quotedName s

/-- The name as one word of a shell in front of a colon. -/
def headName (s : String) : String :=
  if isClearName s.toList && !s.contains ':' then s else quotedName s

end Converge.Program
