import Converge.Program.CharClass
import Converge.Text.Case

/-!
# Regular expressions

An expression describes texts. It is read in its basic or its extended form, and found in a text at
the first place where it fits, as long as can be. `Expression.ends` gives all the places where it
may end; everything else chooses among them.
-/

namespace Converge.Program

inductive Expression where
  | empty
  /-- A character that is accepted. -/
  | one (accepts : Char → Bool)
  | start
  | finish
  /-- The edge of a word: at its front, at its end, at one of both, or at none; or that of a line. -/
  | edge (kind : Char)
  | group (number : Nat) (inner : Expression)
  /-- The text that a group has found. -/
  | back (number : Nat)
  | both (a b : Expression)
  | either (a b : Expression)
  | times (least : Nat) (most : Option Nat) (inner : Expression)

namespace Expression

/-! ## Fitting -/

/-- Where a fit stands: a place, and the places of the groups, the newest first. -/
structure Fit where
  place : Nat
  groups : List (Nat × Nat × Nat)

/-- The fits with one for each place. -/
def distinct : List Fit → List Fit
  | [] => []
  | f :: rest =>
    let others := distinct rest
    f :: others.filter fun g => g.place != f.place

/-- Repetition: fits after so many rounds, the later rounds first. -/
def rounds (step : Fit → List Fit) (least : Nat) (most : Option Nat) :
    (fuel : Nat) → (count : Nat) → List Fit → (found : List Fit) → List Fit
  | 0, _, _, found => found
  | fuel + 1, count, fits, found =>
    let found := if least ≤ count then fits ++ found else found
    if most = some count then found
    else
      let next := distinct (fits.flatMap fun f =>
        (step f).filter fun g => f.place < g.place || count < least)
      if next.isEmpty then found else rounds step least most fuel (count + 1) next found

def isWord (c : Char) : Bool := c.isAlphanum || c == '_' || 128 ≤ c.toNat

/-- All the places where an expression may end from a fit on, those of longer rounds first. -/
def ends (s : Array Char) : Expression → Fit → List Fit
  | empty, f => [f]
  | one accepts, f =>
    match s[f.place]? with
    | some c => if accepts c then [{ f with place := f.place + 1 }] else []
    | none => []
  | start, f => if f.place = 0 then [f] else []
  | finish, f => if f.place = s.size then [f] else []
  | edge kind, f =>
    let before := 0 < f.place && (s[f.place - 1]?).any isWord
    let behind := (s[f.place]?).any isWord
    let holds := match kind with
      | '<' => !before && behind
      | '>' => before && !behind
      | 'b' => before != behind
      | '^' => f.place = 0 || s[f.place - 1]? == some '\n'
      | '$' => f.place = s.size || s[f.place]? == some '\n'
      | _ => before == behind
    if holds then [f] else []
  | group n inner, f =>
    (ends s inner f).map fun g => { g with groups := (n, f.place, g.place) :: g.groups }
  | back n, f =>
    match f.groups.lookup n with
    | none => []
    | some (a, b) =>
      let text := (s.extract a b).toList
      if (s.extract f.place (f.place + text.length)).toList == text then
        [{ f with place := f.place + text.length }]
      else []
  | both a b, f => distinct ((ends s a f).flatMap (ends s b))
  | either a b, f => distinct (ends s a f ++ ends s b f)
  | times least most inner, f => distinct (rounds (ends s inner) least most (s.size + least + 2) 0 [f] [])

/-- The longest of fits, the first of equals. -/
def longest : List Fit → Option Fit
  | [] => none
  | f :: rest => match longest rest with
    | some g => if f.place < g.place then some g else some f
    | none => some f

/-- The first place from a place on where an expression fits, with its fit; `admits` may refuse a
start and an end. -/
def find? (e : Expression) (s : Array Char) (admits : Nat → Nat → Bool) :
    (fuel : Nat) → (place : Nat) → Option (Nat × Fit)
  | 0, _ => none
  | fuel + 1, place =>
    if s.size < place then none
    else match longest ((e.ends s ⟨place, []⟩).filter fun f => admits place f.place) with
      | some f => some (place, f)
      | none => e.find? s admits fuel (place + 1)

def first? (e : Expression) (s : Array Char) (place : Nat) : Option (Nat × Fit) :=
  e.find? s (fun _ _ => true) (s.size + 2) place

/-! ## Reading -/

/-- How expressions are read. -/
structure Manner where
  extended : Bool
  ignoresCase : Bool
  /-- A sign of repetition has to stand behind something. -/
  strict : Bool := false
  /-- More letters behind a backslash stand for characters. -/
  lettered : Bool := false
  /-- The front and the end of each line count, and not only those of the whole text. -/
  byLines : Bool := false

/-- A letter in its small form, where that is a single one. -/
def folded (c : Char) : Char :=
  match Text.lowerOf [] c [] with
  | [d] => d
  | _ => c

def ofChar (m : Manner) (c : Char) : Expression :=
  if m.ignoresCase then one fun d => folded d == folded c else one (· == c)

/-- What a byte becomes that stands in no text. -/
def foreign : Char := '\uFFFD'

/-- The members of a set written as a single character between brackets and signs, and what follows. -/
def named? (sign : Char) (s : List Char) : Except String (Option (Char × List Char)) :=
  match s with
  | c :: d :: ']' :: rest => if d == sign then .ok (some (c, rest)) else .error "Invalid collation character"
  | s => if s.contains sign then .error "Invalid collation character" else .ok none

/-- The members of a set in square brackets and what follows it; `first` says that a bracket is a
member. -/
def members : (fuel : Nat) → (first : Bool) → List Char → Except String ((Char → Bool) × List Char)
  | 0, _, _ | _, _, [] => .error "Unmatched [, [^, [:, [., or [="
  | fuel + 1, first, ']' :: rest =>
    if first then (members fuel false rest).map fun (p, rest) => (fun c => c == ']' || p c, rest)
    else .ok (fun _ => false, rest)
  | fuel + 1, _, '[' :: ':' :: rest =>
    let name := rest.takeWhile (· ≠ ':')
    match rest.drop name.length, classOf? (String.ofList name) with
    | ':' :: ']' :: rest, some set =>
      match rest with
      | '-' :: b :: _ =>
        if b == ']' then
          (members fuel false rest).map fun (p, rest) => (fun c => set.contains c || p c, rest)
        else .error "Invalid range end"
      | rest => (members fuel false rest).map fun (p, rest) => (fun c => set.contains c || p c, rest)
    | ':' :: ']' :: _, none => .error "Invalid character class name"
    | _, _ => .error "Unmatched [, [^, [:, [., or [="
  | fuel + 1, _, '[' :: '.' :: rest => do
    match ← named? '.' rest with
    | some (a, rest) => (members fuel false rest).map fun (p, rest) => (fun c => c == a || p c, rest)
    | none => .error "Unmatched [, [^, [:, [., or [="
  | fuel + 1, _, '[' :: '=' :: rest => do
    match ← named? '=' rest with
    | some (a, rest) => (members fuel false rest).map fun (p, rest) => (fun c => c == a || p c, rest)
    | none => .error "Unmatched [, [^, [:, [., or [="
  | fuel + 1, _, a :: '-' :: b :: rest =>
    if b == ']' then
      (members fuel false (b :: rest)).map fun (p, rest) => (fun c => c == a || c == '-' || p c, rest)
    else if b < a || (b == '[' && [[':'], ['.'], ['=']].contains (rest.take 1)) then .error "Invalid range end"
    else (members fuel false rest).map fun (p, rest) => (fun c => (a ≤ c && c ≤ b) || p c, rest)
  | fuel + 1, _, a :: rest => (members fuel false rest).map fun (p, rest) => (fun c => c == a || p c, rest)

/-- A set in square brackets behind its first bracket. -/
def setOf? (m : Manner) (s : List Char) : Except String (Expression × List Char) := do
  let (turned, s) := match s with
    | '^' :: rest => (true, rest)
    | s => (false, s)
  if s.isEmpty && !turned then throw "Invalid regular expression"
  let (p, rest) ← members (s.length + 1) true s
  let accepts (c : Char) : Bool := if m.ignoresCase then p c.toLower || p c.toUpper else p c
  return (one fun c => c != foreign && accepts c != turned, rest)

/-- The most rounds of a repetition that may be asked for. -/
def maxRounds : Nat := 32767

/-- The least and the most rounds of a repetition, and what follows its sign. -/
abbrev Bounds := Nat × Option Nat × List Char

/-- The bounds of a repetition behind its opening brace; none where the brace only means itself. -/
def bounds? (m : Manner) (s : List Char) : Except String (Option Bounds) :=
  let (low, rest) := takePlainDigits 10 s
  let least := Text.ofDigits 10 low
  let (most, hasComma, rest) : Option Nat × Bool × List Char := match rest with
    | ',' :: rest =>
      let (high, rest) := takePlainDigits 10 rest
      (if high.isEmpty then none else some (Text.ofDigits 10 high), true, rest)
    | rest => (some least, false, rest)
  let wrong : Except String (Option Bounds) :=
    if m.extended && !m.strict then .ok none
    else .error (if rest.isEmpty then "Unmatched \\\x7b" else "Invalid content of \\\x7b\\\x7d")
  let closed (rest : List Char) : Except String (Option Bounds) :=
    if low.isEmpty && !hasComma then wrong
    else if most.any (· < least) then .error "Invalid content of \\\x7b\\\x7d"
    else if maxRounds < least || most.any (maxRounds < ·) then .error "Regular expression too big"
    else .ok (some (least, most, rest))
  match m.extended, rest with
  | true, '\x7d' :: rest | false, '\\' :: '\x7d' :: rest => closed rest
  | _, _ => wrong

/-- A sign of repetition in front, and what follows it. -/
def repetition? (m : Manner) (s : List Char) : Except String (Option Bounds) :=
  match m.extended, s with
  | _, '*' :: rest => .ok (some (0, none, rest))
  | true, '+' :: rest | false, '\\' :: '+' :: rest => .ok (some (1, none, rest))
  | true, '?' :: rest | false, '\\' :: '?' :: rest => .ok (some (0, some 1, rest))
  | true, '\x7b' :: rest | false, '\\' :: '\x7b' :: rest => bounds? m rest
  | _, _ => .ok none

/-- An expression with the signs of repetition behind it. -/
def repeated (m : Manner) : (fuel : Nat) → Expression → List Char → Except String (Expression × List Char)
  | 0, e, s => .ok (e, s)
  | fuel + 1, e, s => do
    match ← repetition? m s with
    | some (least, most, rest) => repeated m fuel (times least most e) rest
    | none => return (e, s)

/-- The front of the text is a sign of repetition. -/
def repeats (s : List Char) : Bool := s.head?.any fun c => "*+?\x7b".contains c

/-- What follows ends an alternative: nothing, a bar or a closing bracket. -/
def endsHere (m : Manner) (depth : Nat) (s : List Char) : Bool :=
  match m.extended, s with
  | _, [] => true
  | true, '|' :: _ | false, '\\' :: '|' :: _ => true
  | true, ')' :: _ => depth ≠ 0
  | false, '\\' :: ')' :: _ => true
  | _, _ => false

/-- The expression for a letter behind a backslash. -/
def ofEscape (m : Manner) (c : Char) : Expression :=
  match c with
  | 'w' => one isWord
  | 'W' => one fun c => !isWord c
  | 's' => one isNumeralBlank
  | 'S' => one fun c => !isNumeralBlank c
  | '<' | '>' | 'b' | 'B' => edge c
  | 'd' => if m.lettered then one Char.isDigit else ofChar m c
  | 'D' => if m.lettered then one fun c => c != foreign && !c.isDigit else ofChar m c
  | 't' => if m.lettered then one (· == '\t') else ofChar m c
  | '\'' => finish
  | c => if c.toNat = 96 then start else if c.isDigit then back (c.toNat - 48) else ofChar m c

/-- Alternatives; the number of groups so far goes in and comes out. -/
def alternatives (m : Manner) : (fuel : Nat) → (depth groups : Nat) → List Char →
    Except String (Expression × Nat × List Char)
  | 0, _, _, _ => .error "Regular expression too big"
  | fuel + 1, depth, groups, s => do
    let (e, groups, rest) ← row fuel depth groups true s
    match m.extended, rest with
    | true, '|' :: rest | false, '\\' :: '|' :: rest =>
      let (others, groups, rest) ← alternatives m fuel depth groups rest
      return (either e others, groups, rest)
    | _, rest => return (e, groups, rest)
where
  /-- Expressions one behind the other; `first` says that none has been read. -/
  row : (fuel : Nat) → (depth groups : Nat) → (first : Bool) → List Char →
      Except String (Expression × Nat × List Char)
    | 0, _, _, _, _ => .error "Regular expression too big"
    | fuel + 1, depth, groups, first, s => do
      let goOn (e : Expression) (groups : Nat) (rest : List Char) :
          Except String (Expression × Nat × List Char) := do
        let (e, rest) ← repeated m rest.length e rest
        let (others, groups, rest) ← row fuel depth groups false rest
        return (both e others, groups, rest)
      let anchored (e : Expression) (rest : List Char) : Except String (Expression × Nat × List Char) := do
        let (others, groups, rest) ← row fuel depth groups true rest
        return (both e others, groups, rest)
      let front := if m.byLines then edge '^' else start
      let behind := if m.byLines then edge '$' else finish
      let bracket (rest : List Char) : Except String (Expression × Nat × List Char) := do
        let number := groups + 1
        let (inner, groups, rest) ← alternatives m fuel (depth + 1) number rest
        match m.extended, rest with
        | true, ')' :: rest | false, '\\' :: ')' :: rest => goOn (group number inner) groups rest
        | _, _ => throw "Unmatched ( or \\("
      if endsHere m depth s then
        if depth = 0 && !m.extended && (s.take 2 == ['\\', ')']) then throw "Unmatched ) or \\)"
        else return (empty, groups, s)
      else if m.strict && s.head? == some ')' then throw "Unmatched ) or \\)"
      else if m.extended && first && repeats s then
        if m.strict then throw "Invalid preceding regular expression" else row fuel depth groups true (s.drop 1)
      else match m.extended, s with
        | true, '(' :: rest | false, '\\' :: '(' :: rest => bracket rest
        | _, '[' :: rest => do
          let (e, rest) ← setOf? m rest
          goOn e groups rest
        | _, '.' :: rest => goOn (one (· != foreign)) groups rest
        | true, '^' :: rest => anchored front rest
        | true, '$' :: rest => goOn behind groups rest
        | false, '^' :: rest => if first then anchored front rest else goOn (ofChar m '^') groups rest
        | false, '$' :: rest =>
          if endsHere m depth rest then goOn behind groups rest else goOn (ofChar m '$') groups rest
        | false, '*' :: rest => goOn (ofChar m '*') groups rest
        | _, ['\\'] => throw "Trailing backslash"
        | _, '\\' :: c :: rest =>
          if c.isDigit && c != '0' && groups < c.toNat - 48 then throw "Invalid back reference"
          else goOn (ofEscape m c) groups rest
        | _, c :: rest => goOn (ofChar m c) groups rest
        | _, [] => return (empty, groups, [])

/-- The signs of repetition that stand behind nothing, in order. -/
def idleSigns (m : Manner) : (fuel : Nat) → (first : Bool) → List Char → List String
  | 0, _, _ | _, _, [] => []
  | fuel + 1, first, c :: rest =>
    if first && repeats (c :: rest) then
      if c != '\x7b' then String.singleton c :: idleSigns m fuel true rest
      else match bounds? m rest with
        | .ok (some _) => "\x7b...\x7d" :: idleSigns m fuel false rest
        | _ => idleSigns m fuel false rest
    else match c with
      | '(' | '|' | '^' => idleSigns m fuel true rest
      | '\\' => idleSigns m fuel false (rest.drop 1)
      | '[' =>
        match setOf? m rest with
        | .ok (_, rest) => idleSigns m fuel false rest
        | .error _ => []
      | _ => idleSigns m fuel false rest

/-- A class of characters stands outside of a set, which nobody means. -/
def hasBareClass (m : Manner) : (fuel : Nat) → List Char → Bool
  | 0, _ | _, [] => false
  | fuel + 1, c :: rest =>
    match c, rest with
    | '\\', rest => hasBareClass m fuel (rest.drop 1)
    | '[', rest =>
      let inside := rest.takeWhile (· ≠ ']')
      if 2 ≤ inside.length && inside.head? == some ':' && inside.getLast? == some ':' then true
      else match setOf? m rest with
        | .ok (_, rest) => hasBareClass m fuel rest
        | .error _ => false
    | _, rest => hasBareClass m fuel rest

def groupCount : Expression → Nat
  | group n inner => max n (groupCount inner)
  | both a b | either a b => max (groupCount a) (groupCount b)
  | times _ _ inner => groupCount inner
  | _ => 0

def read (m : Manner) (s : String) : Except String Expression := do
  let (e, _, rest) ← alternatives m (4 * s.length + 8) 0 0 s.toList
  match rest with
  | [] => return e
  | _ => throw "Unmatched ) or \\)"

end Expression

end Converge.Program
