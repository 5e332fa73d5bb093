import Converge.Program.CharClass

/-!
# Patterns of names

A pattern matches a text as a whole: an asterisk any text, a question mark any character, square
brackets a character of a set. Characters that are kept from their meaning match themselves.
-/

namespace Converge

/-- A character, and whether it is kept from its meaning. -/
structure PatternMark where
  char : Char
  kept : Bool
deriving DecidableEq

abbrev Pattern := List PatternMark

namespace Pattern

/-- The members of a set in square brackets, and what follows it; none where no bracket closes it. -/
def members : (fuel : Nat) → (first : Bool) → Pattern → Option ((Char → Bool) × Pattern)
  | 0, _, _ => none
  | _, _, [] => none
  | fuel + 1, first, a :: rest =>
    let one (rest : Pattern) : Option ((Char → Bool) × Pattern) :=
      (members fuel false rest).map fun (p, rest) => (fun c => c == a.char || p c, rest)
    if a.char == ']' && !a.kept && !first then some (fun _ => false, rest)
    else match a.char, rest with
      | '[', ⟨':', _⟩ :: behind =>
        let name := (behind.takeWhile (·.char ≠ ':')).map (·.char)
        match behind.drop name.length, Program.classOf? (String.ofList name) with
        | _ :: ⟨']', _⟩ :: rest, some set =>
          (members fuel false rest).map fun (p, rest) => (fun c => set.contains c || p c, rest)
        | _, _ => one rest
      | _, ⟨'-', false⟩ :: b :: behind =>
        if b.char == ']' && !b.kept then one rest
        else (members fuel false behind).map fun (p, rest) =>
          (fun c => (a.char ≤ c && c ≤ b.char) || p c, rest)
      | _, _ => one rest

def set? (p : Pattern) : Option ((Char → Bool) × Pattern) :=
  match p with
  | ⟨'!', false⟩ :: rest => (members (rest.length + 1) true rest).map fun (p, rest) => (fun c => !p c, rest)
  | p => members (p.length + 1) true p

def endsOf : List Char → List (List Char)
  | [] => [[]]
  | c :: rest => (c :: rest) :: endsOf rest

def accepts : (fuel : Nat) → Pattern → List Char → Bool
  | 0, _, _ => false
  | _, [], s => s.isEmpty
  | fuel + 1, m :: rest, s =>
    match m.kept, m.char, s with
    | false, '*', s => (endsOf s).any (accepts fuel rest)
    | false, '?', _ :: s => accepts fuel rest s
    | false, '[', c :: s =>
      match set? rest with
      | some (p, rest) => p c && accepts fuel rest s
      | none => c == '[' && accepts fuel rest s
    | _, d, c :: s => c == d && accepts fuel rest s
    | _, _, [] => false

def matchesAll (p : Pattern) (s : List Char) : Bool := accepts (p.length + 1) p s

/-- The pattern that a text writes, in which a backslash keeps the character behind it. -/
def ofText (s : String) : Pattern :=
  let step (p : Bool × Pattern) (c : Char) : Bool × Pattern :=
    if p.1 then (false, ⟨c, true⟩ :: p.2)
    else if c == '\\' then (true, p.2)
    else (false, ⟨c, false⟩ :: p.2)
  (s.toList.foldl step (false, [])).2.reverse

/-- A name as a pattern says it; `folds` says that large and small letters are the same. -/
def fits (folds : Bool) (pattern name : String) : Bool :=
  let cased (s : String) : String := if folds then s.map Char.toLower else s
  matchesAll (ofText (cased pattern)) (cased name).toList

/-- Some character of the pattern has a meaning. -/
def isOpen (p : Pattern) : Bool := p.any fun m => !m.kept && "*?[".contains m.char

/-- The text without its shortest or longest front that the pattern matches. -/
def cutFront (p : Pattern) (longest : Bool) (s : List Char) : List Char :=
  let counts := List.range (s.length + 1)
  let counts := if longest then counts.reverse else counts
  match counts.find? fun n => matchesAll p (s.take n) with
  | some n => s.drop n
  | none => s

/-- The text without its shortest or longest end that the pattern matches. -/
def cutEnd (p : Pattern) (longest : Bool) (s : List Char) : List Char :=
  let counts := List.range (s.length + 1)
  let counts := if longest then counts else counts.reverse
  match counts.find? fun n => matchesAll p (s.drop n) with
  | some n => s.take n
  | none => s

end Pattern

end Converge
