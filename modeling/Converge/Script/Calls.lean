import Converge.Fault
import Converge.Script.Instruction
import Converge.Script.Lexeme

/-!
# Scripts as lines

A script of calls as lines: each does nothing, stops the script with a message, or calls for a resource or a
block of code. Arguments are literals, the path of the script, its name, or facts about the host.
The whole text is read before the first call is made.
-/

namespace Converge

inductive NumberSign where
  | plus
  | minus
  | tilde
deriving DecidableEq, Repr

/-- An argument as it is written. -/
inductive Expr where
  | value (v : Value)
  | signed (sign : NumberSign) (e : Expr)
  | list (items : List Expr)
  | tuple (items : List Expr)
  | set (items : List Expr)
  | mapping (entries : List (Expr × Expr))
  | facts
  | fact (name : Expr)
  | path
  | scriptName
  | unknown (name : String)

/-- A line of a script. -/
inductive Statement where
  | nothing
  | stop (arguments : List Expr)
  | evaluate (e : Expr)
  | resource (positional : List Expr) (named : List (String × Expr))
  | apply (positional : List Expr) (named : List (String × Expr))

namespace NumberSign

/-- The character of a sign. -/
def text : NumberSign → String
  | plus => "+"
  | minus => "-"
  | tilde => "~"

/-- A whole number behind a sign. -/
def onInt (sign : NumberSign) (i : Int) : Int :=
  match sign with
  | plus => i
  | minus => -i
  | tilde => -i - 1

/-- A value behind a sign. -/
def on (sign : NumberSign) (v : Value) : Except Fault Value :=
  match sign, v with
  | sign, .int i => .ok (.int (sign.onInt i))
  | sign, .bool b => .ok (.int (sign.onInt (if b then 1 else 0)))
  | plus, .float d => .ok (.float d)
  | minus, .float d => .ok (.float d.neg)
  | sign, v => .error (.misuse (.noSign sign.text v.fullTypeName))

end NumberSign

namespace Expr

/-- What arguments can refer to. -/
structure Scope where
  path : String
  facts : Table Value
  sets : Value.SetOrder

/-- The name under which a script runs. -/
def runName : String := "__enforcescript__"

def checkKeys (keys : List Value) : Except Fault Unit :=
  match Value.changeables keys with
  | [] => .ok ()
  | v :: _ => .error (.misuse (.changeableKey v.fullTypeName))

mutual

/-- The value of an argument. -/
def eval (scope : Scope) : Expr → Except Fault Value
  | value v => .ok v
  | signed sign e => do sign.on (← eval scope e)
  | list items => do return .list none (← evalAll scope items)
  | tuple items => do return .tuple (← evalAll scope items)
  | set items => do
    let items ← evalAll scope items
    checkKeys items
    return .set none (scope.sets.arrange (Value.itemsOf items))
  | mapping entries => do
    let entries ← evalEntries scope entries
    checkKeys (entries.map Prod.fst)
    return .map none (Value.entriesOf entries)
  | facts => .ok (.map none (scope.facts.entries.map fun e => (.text e.1, e.2)))
  | fact name => do
    let key ← eval scope name
    checkKeys [key]
    match scope.facts.entries.find? fun e => Value.sameKey (.text e.1) key with
    | some e => return e.2
    | none => match key.literal? with
      | some shown => throw (.unknownFact shown)
      | none => throw (.unshown "KeyError")
  | path => .ok (.text scope.path)
  | scriptName => .ok (.text runName)
  | unknown name => .error (.unknownName name)

/-- The values of arguments. -/
def evalAll (scope : Scope) : List Expr → Except Fault (List Value)
  | [] => .ok []
  | e :: rest => do
    let v ← eval scope e
    return v :: (← evalAll scope rest)

/-- The keys and values of a mapping. -/
def evalEntries (scope : Scope) : List (Expr × Expr) → Except Fault (List (Value × Value))
  | [] => .ok []
  | (k, e) :: rest => do
    let k ← eval scope k
    let v ← eval scope e
    return (k, v) :: (← evalEntries scope rest)

end

end Expr

/-! ## Reading lexemes -/

namespace Statement

open Script

/-- What keeps lexemes from being read: their end within a bracket, or a cause in a line. -/
inductive ReadFault where
  | atEnd
  | at (line : Nat) (cause : SyntaxCause)

/-- A reading at the front of some lexemes. -/
abbrev Parse (α : Type) := StateT (List Placed) (Except ReadFault) α

/-- The next lexeme; the end is met only within a bracket. -/
def peek : Parse Placed := do
  match ← get with
  | [] => throw .atEnd
  | p :: _ => return p

/-- The next lexeme is passed. -/
def skip : Parse Unit := modify List.tail

def isSign (sign : String) : Lexeme → Bool
  | .sign s => s == sign
  | _ => false

/-- The next lexeme is passed if it is a sign; says whether it was. -/
def accept (sign : String) : Parse Bool := do
  if isSign sign (← peek).lexeme then do
    skip
    return true
  else return false

/-- Something is wrong with the next lexeme. -/
def wrong {α : Type} (cause : SyntaxCause) : Parse α := do throw (.at (← peek).line cause)

def nameExpr (name : String) : Expr :=
  match name with
  | "True" => .value (.bool true)
  | "False" => .value (.bool false)
  | "None" => .value .null
  | "__file__" => .path
  | "__name__" => .scriptName
  | "facts" => .facts
  | name => .unknown name

/-- Names that begin something other than an argument. -/
def keywords : List String :=
  ["and", "as", "assert", "async", "await", "break", "class", "continue", "def", "del", "elif", "else",
    "except", "finally", "for", "from", "global", "if", "import", "in", "is", "lambda", "nonlocal",
    "not", "or", "pass", "raise", "return", "try", "while", "with", "yield"]

def begins : Lexeme → Bool
  | .name s => !keywords.contains s
  | .number _ | .text _ | .bytes _ => true
  | .sign s => ["(", "[", "\x7b", "~"].contains s
  | .lineEnd | .indent => false

/-- Texts that follow each other make one, and so do bytes. -/
def joined (line : Nat) : (fuel : Nat) → (made : Sum (List Char) (List UInt8)) → Parse Expr
  | 0, _ => throw .atEnd
  | fuel + 1, made => do
    let next := ((← get).head?.map Placed.lexeme).getD .lineEnd
    match made, next with
    | .inl s, .text t => do
      skip
      joined line fuel (.inl (s ++ t))
    | .inr s, .bytes t => do
      skip
      joined line fuel (.inr (s ++ t))
    | .inl _, .bytes _ | .inr _, .text _ => throw (.at line .mixedTexts)
    | .inl s, _ => return .value (.text (String.ofList s))
    | .inr s, _ => return .value (.bytes ⟨s.toArray⟩)

mutual

/-- An argument. -/
def expr : Nat → Parse Expr
  | 0 => throw .atEnd
  | fuel + 1 => do
    let p ← peek
    match p.lexeme with
    | .sign "+" => do
      skip
      return .signed .plus (← expr fuel)
    | .sign "-" => do
      skip
      return .signed .minus (← expr fuel)
    | .sign "~" => do
      skip
      return .signed .tilde (← expr fuel)
    | .sign "(" => do
      skip
      let (items, lone) ← items fuel ")" false
      match items, lone with
      | [e], true => return e
      | items, _ => return .tuple items
    | .sign "[" => do
      skip
      return .list (← items fuel "]" false).1
    | .sign "\x7b" => do
      skip
      braces fuel
    | .number v => do
      skip
      return .value v
    | .text _ | .bytes _ => joined p.line ((← get).length + 1) (match p.lexeme with
      | .bytes _ => .inr []
      | _ => .inl [])
    | .name name => do
      if keywords.contains name then wrong .other
      else do
        skip
        let next := ((← get).head?.map Placed.lexeme).getD .lineEnd
        if name == "facts" && isSign "[" next then do
          skip
          let key ← expr fuel
          if ← accept "]" then return .fact key else return (← adjacent fuel p.line).elim
        else return nameExpr name
    | _ => wrong .other

/-- The items up to a closing sign; says whether a single item stands without a comma. -/
def items : Nat → (closing : String) → (found : Bool) → Parse (List Expr × Bool)
  | 0, _, _ => throw .atEnd
  | fuel + 1, closing, found => do
    if ← accept closing then return ([], false)
    else do
      let line := (← peek).line
      let e ← expr fuel
      if ← accept "," then do
        let (more, _) ← items fuel closing true
        return (e :: more, false)
      else if ← accept closing then return ([e], !found)
      else return (← adjacent fuel line).elim

/-- A mapping or a set, from after its brace. -/
def braces : Nat → Parse Expr
  | 0 => throw .atEnd
  | fuel + 1 => do
    if ← accept "\x7d" then return .mapping []
    else do
      let line := (← peek).line
      let first ← expr fuel
      if ← accept ":" then do
        let value ← expr fuel
        return .mapping ((first, value) :: (← entries fuel line))
      else if ← accept "," then return .set (first :: (← items fuel "\x7d" true).1)
      else if ← accept "\x7d" then return .set [first]
      else return (← adjacent fuel line).elim

/-- The entries of a mapping after the first. -/
def entries : Nat → (line : Nat) → Parse (List (Expr × Expr))
  | 0, _ => throw .atEnd
  | fuel + 1, line => do
    if ← accept "\x7d" then return []
    else if ← accept "," then do
      if ← accept "\x7d" then return []
      else do
        let line := (← peek).line
        let key ← expr fuel
        if ← accept ":" then do
          let value ← expr fuel
          return (key, value) :: (← entries fuel line)
        else if isSign "\x7d" (← peek).lexeme || isSign "," (← peek).lexeme then wrong .missingColon
        else return (← adjacent fuel line).elim
    else return (← adjacent fuel line).elim

/-- What is wrong when no comma follows an argument that begins in a line: it is missing if another
argument follows. -/
def adjacent : Nat → (line : Nat) → Parse Empty
  | 0, _ => throw .atEnd
  | fuel + 1, line => do
    if begins (← peek).lexeme then do
      let after := (← peek).line
      let _ ← expr fuel
      throw (.at (max line after) .missingComma)
    else wrong .other

end

/-- The name before a single equals sign at the front, which is passed with it. -/
def keyword : Parse (Option String) := do
  match ← get with
  | ⟨.name name, _⟩ :: ⟨.sign "=", _⟩ :: rest => do
    set rest
    return some name
  | _ => return none

/-- The arguments after one that begins in a line, given how those behind a comma are read. -/
def afterArgument (fuel line : Nat) (others : Parse (List Expr × List (String × Expr))) :
    Parse (List Expr × List (String × Expr)) := do
  if ← accept "," then others
  else if ← accept ")" then return ([], [])
  else return (← adjacent fuel line).elim

/-- The arguments of a call, from after its bracket, given the names of those before. -/
def arguments : Nat → (names : List String) → Parse (List Expr × List (String × Expr))
  | 0, _ => throw .atEnd
  | fuel + 1, names => do
    if ← accept ")" then return ([], [])
    else do
      let line := (← peek).line
      match ← keyword with
      | some name => do
        let e ← expr fuel
        if names.contains name then throw (.at line (.repeatedName name))
        let (positional, named) ← afterArgument fuel line (arguments fuel (name :: names))
        return (positional, (name, e) :: named)
      | none => do
        let e ← expr fuel
        if !names.isEmpty then throw (.at line .positionalAfterNamed)
        let (positional, named) ← afterArgument fuel line (arguments fuel names)
        return (e :: positional, named)

/-- A call of a name, or an argument by itself. -/
def call (fuel : Nat) : Parse Statement := do
  match ← get with
  | ⟨.name "resource", _⟩ :: ⟨.sign "(", _⟩ :: rest => do
    set rest
    let (positional, named) ← arguments fuel []
    return .resource positional named
  | ⟨.name "apply", _⟩ :: ⟨.sign "(", _⟩ :: rest => do
    set rest
    let (positional, named) ← arguments fuel []
    return .apply positional named
  | ⟨.name name, _⟩ :: ⟨.sign "(", _⟩ :: rest =>
    if keywords.contains name then wrong .other
    else do
      set rest
      let _ ← arguments fuel []
      return .evaluate (.unknown name)
  | _ => do return .evaluate (← expr fuel)

def statement (fuel : Nat) : Parse Statement := do
  match ← get with
  | ⟨.name "pass", _⟩ :: rest => do
    set rest
    return .nothing
  | ⟨.name "raise", _⟩ :: ⟨.name "RuntimeError", _⟩ :: ⟨.sign "(", _⟩ :: rest => do
    set rest
    match ← arguments fuel [] with
    | (positional, []) => return .stop positional
    | _ => wrong .other
  | ⟨.name "raise", _⟩ :: ⟨.name "RuntimeError", _⟩ :: rest => do
    set rest
    return .stop []
  | ⟨.indent, _⟩ :: _ => wrong .indent
  | _ => call fuel

/-- The statements of lexemes, up to their end or up to what is wrong. -/
def statements : Nat → List Placed → Except ReadFault (List Statement)
  | 0, _ => .error .atEnd
  | _ + 1, [] => .ok []
  | fuel + 1, lexemes => do
    let (s, rest) ← (statement (lexemes.length + 1)).run lexemes
    match rest with
    | ⟨.lineEnd, _⟩ :: rest => return s :: (← statements fuel rest)
    | ⟨.sign ";", _⟩ :: ⟨.lineEnd, _⟩ :: rest => return s :: (← statements fuel rest)
    | ⟨.sign ";", _⟩ :: rest => return s :: (← statements fuel rest)
    | p :: _ => throw (.at p.line .other)
    | [] => throw .atEnd

/-- What is wrong with a script in the end: a bracket that stays open explains what is wrong in a
line after it. -/
def faultOf (opened : List (Char × Nat)) : ReadFault → SyntaxFault
  | .atEnd =>
    match opened with
    | (bracket, line) :: _ => ⟨some line, .neverClosed bracket⟩
    | [] => ⟨none, .other⟩
  | .at line cause =>
    match opened with
    | (bracket, start) :: _ =>
      if start < line then ⟨some start, .neverClosed bracket⟩ else ⟨some line, cause⟩
    | [] => ⟨some line, cause⟩

def ofText (text : String) : Except SyntaxFault (List Statement) :=
  let (lexemes, opened, fault) := lexemes text
  match fault with
  | some fault => .error fault
  | none => (statements (lexemes.length + 1) lexemes).mapError (faultOf opened)

end Statement

end Converge
