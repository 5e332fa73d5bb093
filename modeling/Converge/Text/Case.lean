import Converge.Text.CaseTable

/-!
# Lower case and initial capitals

Case of every script. A capital sigma becomes the final small sigma at the end of a word: a letter
with case stands before it and none after it, marks that case ignores aside. A dotted capital I
becomes an i and a dot above.
-/

namespace Converge.Text

/-- The character, moved by the first shift of a table that covers it. -/
def shift (table : List Shift) (c : Char) : Char :=
  match table.findSome? (·.move? c.toNat) with
  | some n => Char.ofNat n
  | none => c

def isCaseIgnorable (c : Char) : Bool :=
  caseIgnorableRanges.holds c.toNat

def isCased (c : Char) : Bool :=
  if c.toNat < 128 then c.isAlpha else casedRanges.holds c.toNat

/-- The nearest character that case does not ignore is a letter with case. -/
def letterNext (s : List Char) : Bool :=
  match s.dropWhile isCaseIgnorable with
  | [] => false
  | c :: _ => isCased c

/-- The small form of one character, given what stands before it, nearest first, and after it. -/
def lowerOf (before : List Char) (c : Char) (after : List Char) : List Char :=
  if c.toNat < 128 then [c.toLower]
  else if c = 'Σ' then [if letterNext before && !letterNext after then 'ς' else 'σ']
  else if c = 'İ' then ['i', Char.ofNat 0x307]
  else [shift lowerShifts c]

/-- The small forms of characters, given what stands before them, nearest first. -/
def lowerFrom (before : List Char) : List Char → List Char
  | [] => []
  | c :: rest => lowerOf before c rest ++ lowerFrom (c :: before) rest

/-- Every character in its small form. -/
def lowerChars (s : List Char) : List Char :=
  lowerFrom [] s

/-- The form of a character at the start of a word. -/
def initialOf (c : Char) : List Char :=
  if c.toNat < 128 then [c.toUpper]
  else match initialExpansions.lookup c.toNat with
    | some ns => ns.map Char.ofNat
    | none => [shift initialShifts c]

/-- The first character in its initial form and the others in their small form. -/
def capitalizeChars : List Char → List Char
  | [] => []
  | c :: rest => initialOf c ++ lowerFrom [c] rest

/-- The text in small letters. -/
def lower (s : String) : String :=
  String.ofList (lowerChars s.toList)

/-- The text with an initial capital and small letters after it. -/
def capitalize (s : String) : String :=
  String.ofList (capitalizeChars s.toList)

end Converge.Text
