import Converge.Shell.Command

/-!
# Words of a script

Reading the words of a script: quotation, parameters and what is put into the place of commands. How
commands are read is a parameter here, so that words do not depend on commands.
-/

namespace Converge.Shell

/-- A fault in the writing of a script, on a line. -/
structure ScriptFault where
  line : Nat
  words : String

/-- What is left of a script. -/
structure Script where
  rest : List Char
  line : Nat
  /-- Lines that the next line feed passes over because they have been read. -/
  passed : Nat

abbrev Reader := StateT Script (Except ScriptFault)

namespace Reader

def wrong {α : Type} (words : String) : Reader α := do
  throw ⟨(← get).line, "Syntax error: " ++ words⟩

/-- The character in front, which stays there; a line that goes on on the next counts as one. -/
def peek : Reader (Option Char) := do
  let s ← get
  match joined (s.rest.length + 1) s.rest s.line with
  | (rest, line) =>
    set { s with rest, line }
    return rest.head?
where
  /-- The script without line feeds that a backslash takes away in front. -/
  joined : (fuel : Nat) → List Char → Nat → List Char × Nat
    | fuel + 1, '\\' :: '\n' :: rest, line => joined fuel rest (line + 1)
    | _, rest, line => (rest, line)

def pass : Reader Unit :=
  modify fun s => match s.rest with
    | '\n' :: rest => ⟨rest, s.line + 1 + s.passed, 0⟩
    | _ :: rest => { s with rest }
    | [] => s

def next : Reader (Option Char) := do
  let c := (← get).rest.head?
  pass
  return c

/-- The character of a sign for commands within a word. -/
def backquote : Char := Char.ofNat 96

/-- The text between single quotation marks, behind the first of them. -/
def single : (fuel : Nat) → Reader (List Char)
  | 0 => wrong "Unterminated quoted string"
  | fuel + 1 => do
    match ← next with
    | none => wrong "Unterminated quoted string"
    | some '\'' => return []
    | some c => return c :: (← single fuel)

/-- The text up to a sign for commands, behind the first of them: a backslash takes the meaning of
another backslash, a dollar sign or such a sign. -/
def backquoted (quoted : Bool) : (fuel : Nat) → Reader (List Char)
  | 0 => wrong "EOF in backquote substitution"
  | fuel + 1 => do
    match ← next with
    | none => wrong "EOF in backquote substitution"
    | some '\\' =>
      match ← next with
      | none => wrong "EOF in backquote substitution"
      | some '\n' => backquoted quoted fuel
      | some c =>
        let rest ← backquoted quoted fuel
        if c == '\\' || c == '$' || c == backquote || (quoted && c == '"') then return c :: rest
        else return '\\' :: c :: rest
    | some c => if c == backquote then return [] else return c :: (← backquoted quoted fuel)

/-- The characters of a kind in front, which are passed. -/
def takeWhile (p : Char → Bool) : (fuel : Nat) → Reader (List Char)
  | 0 => return []
  | fuel + 1 => do
    match ← peek with
    | some c =>
      if p c then
        pass
        return c :: (← takeWhile p fuel)
      else return []
    | none => return []

/-- How much fuel the rest of the script may need. -/
def fuel : Reader Nat := return (← get).rest.length + 1

/-- The name of a parameter in braces, and whether its length is meant. -/
def parameterName : Reader (Option String × Bool) := do
  let n ← fuel
  let named : Reader (Option String) := do
    match ← peek with
    | some c =>
      if beginsName c then return some (String.ofList (← takeWhile isNameChar n))
      else if c.isDigit then return some (String.ofList (← takeWhile Char.isDigit n))
      else return none
    | none => return none
  match ← named with
  | some name => return (some name, false)
  | none =>
    match ← peek with
    | some '#' =>
      pass
      match ← named with
      | some name => return (some name, true)
      | none =>
        match (← get).rest with
        | c :: '\x7d' :: _ =>
          if isSpecial c then
            pass
            return (some (String.singleton c), true)
          else return (some "#", false)
        | _ => return (some "#", false)
    | some c =>
      if isSpecial c then
        pass
        return (some (String.singleton c), false)
      else return (none, false)
    | none => return (none, false)

/-- What is made of a parameter, by the signs behind its name. -/
def useOf : Reader Use := do
  match ← peek with
  | some '\x7d' => return .plain
  | some ':' =>
    pass
    match ← peek with
    | some c =>
      match c with
      | '-' => pass; return .instead true
      | '=' => pass; return .assign true
      | '?' => pass; return .demand true
      | '+' => pass; return .alternate true
      | _ => return .invalid
    | none => return .invalid
  | some '-' => pass; return .instead false
  | some '=' => pass; return .assign false
  | some '?' => pass; return .demand false
  | some '+' => pass; return .alternate false
  | some '%' =>
    pass
    if (← peek) == some '%' then
      pass
      return .cut false true
    else return .cut false false
  | some '#' =>
    pass
    if (← peek) == some '#' then
      pass
      return .cut true true
    else return .cut true false
  | _ => return .invalid

/-- Where pieces stand: by themselves, between double quotation marks, in braces in either of them, in
a calculation, or in a document. -/
inductive Around where
  | nothing
  | quotes
  | braces (quoted : Bool)
  | calculation (depth : Nat)
  | document
deriving DecidableEq

/-- A backslash keeps only some characters from their meaning. -/
def Around.isQuoted : Around → Bool
  | nothing | braces false => false
  | _ => true

def endsWord (c : Char) : Bool := " \t\n;&|<>()".contains c

/-- The complaint about a script that ends inside of pieces. -/
def Around.unended : Around → String
  | braces _ => "Missing '\x7d'"
  | calculation _ => "Missing '))'"
  | _ => "Unterminated quoted string"

/-- How commands inside of a word are read: those up to a bracket, and those of a text by itself. -/
structure Inner where
  bracketed : Reader (Option Command)
  whole : List Char → Reader (Option Command)

mutual

/-- What a dollar sign stands for, behind it; none where it stands for itself. -/
def dollar (inner : Inner) : (fuel : Nat) → Around → Reader (Option Piece)
  | 0, _ => return none
  | n + 1, around => do
    match ← peek with
    | some '(' =>
      pass
      if (← peek) == some '(' then
        pass
        return some (.arithmetic (← pieces inner n (.calculation 0)))
      else return some (.commands (← inner.bracketed))
    | some '\x7b' =>
      pass
      let (name, length) ← parameterName
      let use ← match name, length with
        | none, _ => pure Use.invalid
        | some _, true => if (← peek) == some '\x7d' then pure Use.length else pure Use.invalid
        | some _, false => useOf
      match use with
      | .plain | .length =>
        pass
        return some (.parameter (name.getD "") use [])
      | use =>
        let quoted := match use with
          | .cut .. => false
          | _ => around.isQuoted
        return some (.parameter (name.getD "") use (← pieces inner n (.braces quoted)))
    | some c =>
      if beginsName c then
        let name ← takeWhile isNameChar (← fuel)
        return some (.parameter (String.ofList name) .plain [])
      else if isSpecial c then
        pass
        return some (.parameter (String.singleton c) .plain [])
      else return none
    | none => return none

def pieces (inner : Inner) : (fuel : Nat) → Around → Reader (List Piece)
  | 0, _ => return []
  | n + 1, around => do
    let go (p : Piece) (around : Around) : Reader (List Piece) := return p :: (← pieces inner n around)
    match ← peek with
    | none =>
      match around with
      | .nothing | .document => return []
      | around => wrong around.unended
    | some c =>
      if around = .nothing && endsWord c then return []
      else
        pass
        match c with
        | '\\' =>
          match ← next with
          | none => go (.escaped '\\') around
          | some d =>
            if !around.isQuoted then go (.escaped d) around
            else if d == '$' || d == '\\' || d == backquote then go (.escaped d) around
            else if d == '"' && around ≠ .document then go (.escaped d) around
            else if d == '\x7d' && around = .braces true then go (.escaped d) around
            else return .escaped '\\' :: (← go (.escaped d) around)
        | '$' =>
          match ← dollar inner n around with
          | some p => go p around
          | none => go (.plain '$') around
        | '\'' =>
          if around.isQuoted then go (.plain c) around
          else go (.single (String.ofList (← single (← fuel)))) around
        | '"' =>
          match around with
          | .quotes => return []
          | .document | .calculation _ => go (.plain c) around
          | around =>
            let quoted ← pieces inner n .quotes
            go (.double quoted) around
        | '\x7d' =>
          match around with
          | .braces _ => return []
          | around => go (.plain c) around
        | '(' =>
          match around with
          | .calculation depth => go (.plain c) (.calculation (depth + 1))
          | around => go (.plain c) around
        | ')' =>
          match around with
          | .calculation 0 =>
            if (← peek) == some ')' then
              pass
              return []
            else go (.plain c) around
          | .calculation (depth + 1) => go (.plain c) (.calculation depth)
          | around => go (.plain c) around
        | c =>
          if c == backquote then
            let text ← backquoted around.isQuoted (← fuel)
            go (.commands (← inner.whole text)) around
          else go (.plain c) around

end

end Reader

end Converge.Shell
