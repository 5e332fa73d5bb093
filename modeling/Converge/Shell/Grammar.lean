import Converge.Shell.Word

/-!
# Reading commands

A script is read a line at a time: a list of commands up to a line feed, with as many further lines
as the commands need. Words that are reserved have their meaning only where a command may begin.
-/

namespace Converge.Shell

/-- What stands between blanks. -/
inductive Token where
  | word (pieces : List Piece)
  /-- A reserved word where it counts as one. -/
  | reserved (word : String)
  | redirection (r : Redirection)
  /-- A sign of one or two characters. -/
  | sign (s : String)
  | newline
  | ending

def reservedWords : List String :=
  ["!", "\x7b", "\x7d", "case", "do", "done", "elif", "else", "esac", "fi", "for", "if", "in", "then",
    "until", "while"]

namespace Token

def name : Token → String
  | word _ => "word"
  | reserved w => "\"" ++ w ++ "\""
  | redirection _ => "redirection"
  | sign s => "\"" ++ s ++ "\""
  | newline => "newline"
  | ending => "end of file"

def endsList : Token → Bool
  | ending => true
  | sign s => s == ")" || s == ";;"
  | reserved w => ["do", "done", "elif", "else", "esac", "fi", "then", "\x7d"].contains w
  | _ => false

def withMeaning : Token → Token
  | word pieces =>
    match plainText? pieces with
    | some s => if reservedWords.contains s then reserved s else word pieces
    | none => word pieces
  | t => t

def isReserved (t : Token) (w : String) : Bool :=
  match t with
  | reserved v => v == w
  | _ => false

def isSign (t : Token) (s : String) : Bool :=
  match t with
  | sign v => v == s
  | _ => false

end Token

abbrev TokenReader := StateT (Option Token) Reader

namespace TokenReader

open Reader (peek pass)

/-- Blanks, comments and line feeds that a backslash takes away are passed. -/
def passBlanks : (fuel : Nat) → Reader Unit
  | 0 => return ()
  | n + 1 => do
    match ← peek with
    | some c =>
      if c == ' ' || c == '\t' then
        pass
        passBlanks n
      else if c == '#' then
        modify fun s => { s with rest := s.rest.dropWhile (· ≠ '\n') }
      else return ()
    | none => return ()

/-- The lines of a document in a script up to its end, and what follows; `strips` takes tabs in front
of lines away. -/
def documentLines (finish : List Char) (strips : Bool) : (fuel : Nat) → List Char →
    List (List Char) × List Char
  | 0, s => ([], s)
  | n + 1, s =>
    let line := s.takeWhile (· ≠ '\n')
    let behind := s.drop (line.length + 1)
    let shown := if strips then line.dropWhile (· == '\t') else line
    if s.isEmpty then ([], [])
    else if shown == finish then ([], behind)
    else
      let (more, rest) := documentLines finish strips n behind
      let ended := if line.length < s.length then shown ++ ['\n'] else shown
      (ended :: more, rest)

/-- The document whose end a word writes; it is taken out of the lines behind the current one. -/
def document (inner : Reader.Inner) (finish : List Piece) (strips : Bool) : Reader (List Piece) := do
  let s ← get
  let front := s.rest.takeWhile (· ≠ '\n')
  let behind := s.rest.drop (front.length + 1)
  let (lines, rest) := documentLines (bareText finish).toList strips (s.rest.length + 1) behind
  let count := lines.length + (if rest.isEmpty then 0 else 1)
  let text := lines.flatten
  set { s with rest := front ++ '\n' :: rest, passed := s.passed + count }
  if isQuoted finish then return [.single (String.ofList text)]
  else
    let after ← get
    set (⟨text, s.line + 1, 0⟩ : Script)
    let pieces ← Reader.pieces inner (2 * text.length + 2) .document
    set after
    return [.double pieces]

def word (inner : Reader.Inner) : Reader (List Piece) := do
  Reader.pieces inner (2 * (← get).rest.length + 2) .nothing

/-- The word behind the sign of a redirection. -/
def target (inner : Reader.Inner) : Reader (List Piece) := do
  passBlanks (← Reader.fuel)
  match ← word inner with
  | [] =>
    match (← get).rest with
    | [] => Reader.wrong "end of file unexpected"
    | '\n' :: _ =>
      pass
      Reader.wrong "newline unexpected"
    | c :: d :: _ =>
      if c == '<' || c == '>' then Reader.wrong "redirection unexpected"
      else if c == d && "&|;".contains c then
        Reader.wrong ((Token.sign (String.ofList [c, d])).name ++ " unexpected")
      else Reader.wrong ((Token.sign (String.singleton c)).name ++ " unexpected")
    | [c] => Reader.wrong ((Token.sign (String.singleton c)).name ++ " unexpected")
  | pieces => return pieces

/-- The redirection whose first sign has been passed. -/
def redirection (inner : Reader.Inner) (place : Option Nat) (sign : Char) : Reader Redirection := do
  let second ← peek
  let made (usual : Nat) (kind : Turn) : Reader Redirection := do
    return .turn (place.getD usual) kind (← target inner)
  match sign, second with
  | '>', some '>' => pass; made 1 .append
  | '>', some '|' => pass; made 1 .replace
  | '>', some '&' => pass; made 1 .copy
  | '>', _ => made 1 .output
  | _, some '&' => pass; made 0 .copy
  | _, some '>' => pass; made 0 .both
  | _, some '<' =>
    pass
    let strips := (← peek) == some '-'
    if strips then pass
    let finish ← target inner
    return .turn (place.getD 0) .document (← document inner finish strips)
  | _, _ => made 0 .input

def fresh (inner : Reader.Inner) : Reader Token := do
  passBlanks (← Reader.fuel)
  match ← peek with
  | none => return .ending
  | some c =>
    let double (s : String) : Reader Token := do
      pass
      if (← peek) == some c then
        pass
        return .sign (s ++ s)
      else return .sign s
    match c with
    | '\n' =>
      pass
      return .newline
    | '&' => double "&"
    | '|' => double "|"
    | ';' => double ";"
    | '(' => pass; return .sign "("
    | ')' => pass; return .sign ")"
    | c =>
      if c == '<' || c == '>' then
        pass
        return .redirection (← redirection inner none c)
      else
        match (← get).rest with
        | d :: sign :: _ =>
          if d.isDigit && (sign == '<' || sign == '>') then
            pass
            pass
            return .redirection (← redirection inner (some (d.toNat - 48)) sign)
          else return .word (← word inner)
        | _ => return .word (← word inner)

/-- The next token, with the meaning of reserved words if they count. -/
def next (inner : Reader.Inner) (reserved : Bool) : TokenReader Token := do
  let t ← match ← get with
    | some t => do
      set (none : Option Token)
      pure t
    | none => (fresh inner : Reader Token)
  return if reserved then t.withMeaning else t

def back (t : Token) : TokenReader Unit := set (some t)

def nextFilled (inner : Reader.Inner) (reserved : Bool) : (fuel : Nat) → TokenReader Token
  | 0 => return .ending
  | n + 1 => do
    match ← next inner reserved with
    | .newline => nextFilled inner reserved n
    | t => return t

/-- The token has no place there; perhaps only one other would have. -/
def unexpected {α : Type} (t : Token) (expected : Option Token := none) : TokenReader α :=
  (Reader.wrong (t.name ++ " unexpected" ++ match expected with
    | some e => " (expecting " ++ e.name ++ ")"
    | none => "") : Reader α)

def line : TokenReader Nat := do return (← (get : Reader Script)).line

def assignment? (pieces : List Piece) : Option (String × List Piece) :=
  let isNamePart (p : Piece) : Bool := match p with
    | .plain c => isNameChar c
    | _ => false
  let name := String.ofList ((pieces.takeWhile isNamePart).filterMap fun p => match p with
    | .plain c => some c
    | _ => none)
  match pieces.dropWhile isNamePart with
  | .plain '=' :: value => if isName name then some (name, value) else none
  | _ => none

def keptNames : List String :=
  [".", ":", "break", "continue", "eval", "exec", "exit", "export", "readonly", "return", "set", "shift",
    "times", "trap", "unset"]

/-- The redirections behind a command, and whether reserved words count. -/
def redirections (inner : Reader.Inner) : (fuel : Nat) → TokenReader (List Redirection)
  | 0 => return []
  | n + 1 => do
    match ← next inner true with
    | .redirection r => return r :: (← redirections inner n)
    | t =>
      back t
      return []

/-- The words up to a line feed or a semicolon. -/
def words (inner : Reader.Inner) : (fuel : Nat) → TokenReader (List (List Piece))
  | 0 => return []
  | n + 1 => do
    match ← next inner false with
    | .word ps => return ps :: (← words inner n)
    | .newline => return []
    | .sign ";" => return []
    | t => unexpected t

/-- The way in which a list of commands is read. -/
inductive Mode where
  /-- Up to the end of a line. -/
  | line
  /-- At least one command. -/
  | filled
  /-- Perhaps none. -/
  | any
deriving DecidableEq

/-- Two commands in a row, the first of which may be missing. -/
def inRow (a : Option Command) (b : Command) : Command :=
  match a with
  | none => b
  | some a => .row a b

mutual

/-- A list of commands, those read so far in front. -/
def list : (fuel : Nat) → Mode → (first : Bool) → Option Command → TokenReader (Option Command)
  | 0, _, _, found => return found
  | n + 1, mode, first, found => do
    let inner := innerOf n
    let t ← if mode = .line then next inner true else nextFilled inner true (n + 1)
    match t with
    | .newline => return found
    | .ending =>
      back t
      return found
    | t =>
      back t
      if t.endsList && (mode = .any || (mode = .filled && !first)) then return found
      else
        let made ← conditional n
        let behind ← next inner false
        let made := if behind.isSign "&" then Command.background made else made
        let all := inRow found made
        match behind with
        | .ending =>
          back behind
          return some all
        | .newline =>
          if mode = .line then return some all else list n mode false (some all)
        | behind =>
          if behind.isSign "&" || behind.isSign ";" then list n mode false (some all)
          else if mode = .line then unexpected behind
          else
            back behind
            return some all

def innerOf : (fuel : Nat) → Reader.Inner
  | 0 => ⟨return none, fun _ => return none⟩
  | n + 1 =>
    { bracketed := do
        let (body, left) ← (list n .any true none).run none
        let close ← (next (innerOf n) true).run' left
        if close.isSign ")" then return body
        else (unexpected close (some (.sign ")")) : TokenReader (Option Command)).run' none
      whole := fun text => do
        let outer ← get
        set (⟨text, outer.line, 0⟩ : Script)
        let (body, left) ← (list n .any true none).run none
        let close ← (next (innerOf n) true).run' left
        match close with
        | .ending =>
          set outer
          return body
        | t => (unexpected t : TokenReader (Option Command)).run' none }

/-- Pipelines of which each runs only after the success or the failure of those before. -/
def conditional : (fuel : Nat) → TokenReader Command
  | 0 => unexpected .ending
  | n + 1 => do
    let first ← pipeline n true
    joined n first

def joined : (fuel : Nat) → Command → TokenReader Command
  | 0, first => return first
  | n + 1, first => do
    let inner := innerOf n
    let t ← next inner false
    if t.isSign "&&" || t.isSign "||" then
      back (← nextFilled inner true (n + 1))
      let second ← pipeline n true
      joined n (if t.isSign "&&" then .both first second else .either first second)
    else
      back t
      return first

/-- Commands of which each reads what the one before prints. -/
def pipeline : (fuel : Nat) → (mayTurn : Bool) → TokenReader Command
  | 0, _ => unexpected .ending
  | n + 1, _ => do
    let inner := innerOf n
    let t ← next inner true
    let turned := t.isReserved "!"
    if !turned then back t
    let first ← command n
    let others ← piped n
    let made := if others.isEmpty then first else Command.pipeline (first :: others)
    return if turned then .negated made else made

def piped : (fuel : Nat) → TokenReader (List Command)
  | 0 => return []
  | n + 1 => do
    let inner := innerOf n
    let t ← next inner false
    if t.isSign "|" then
      back (← nextFilled inner true (n + 1))
      let c ← command n
      return c :: (← piped n)
    else
      back t
      return []

/-- A list of commands that has at least one, unless the script ends. -/
def body : (fuel : Nat) → TokenReader Command
  | 0 => unexpected .ending
  | n + 1 => return (← list n .filled true none).getD (.simple 0 [] [] [])

/-- The reserved word in front, which has to be there. -/
def expect : (fuel : Nat) → String → TokenReader Unit
  | 0, _ => return ()
  | n + 1, w => do
    let t ← next (innerOf n) true
    if t.isReserved w then return () else unexpected t (some (.reserved w))

def choice : (fuel : Nat) → TokenReader Command
  | 0 => unexpected .ending
  | n + 1 => do
    let condition ← body n
    expect n "then"
    let yes ← body n
    let t ← next (innerOf n) true
    if t.isReserved "elif" then return .choice condition yes (some (← choice n))
    else if t.isReserved "else" then
      let no ← body n
      expect n "fi"
      return .choice condition yes (some no)
    else
      back t
      expect n "fi"
      return .choice condition yes none

def cases : (fuel : Nat) → TokenReader (List (List (List Piece) × Option Command))
  | 0 => unexpected .ending
  | n + 1 => do
    let inner := innerOf n
    let t ← nextFilled inner true (n + 1)
    if t.isReserved "esac" then return []
    else
      let t ← if t.isSign "(" then next inner false else pure t
      let patterns ← patterns n t
      let body ← list n .any true none
      let close ← nextFilled inner true (n + 1)
      if close.isReserved "esac" then return [(patterns, body)]
      else if close.isSign ";;" then return (patterns, body) :: (← cases n)
      else unexpected close (some (.sign ";;"))

/-- The patterns of a case, the first of which has been read. -/
def patterns : (fuel : Nat) → Token → TokenReader (List (List Piece))
  | 0, t => unexpected t
  | n + 1, t => do
    let inner := innerOf n
    let made : List Piece ← match t with
      | .word ps => pure ps
      | .reserved w => pure (w.toList.map Piece.plain)
      | .ending => unexpected t (some (.sign ")"))
      | _ => pure []
    let t ← next inner false
    if t.isSign "|" then
      let t ← next inner false
      return made :: (← patterns n t)
    else if t.isSign ")" then return [made]
    else unexpected t (some (.sign ")"))

def command : (fuel : Nat) → TokenReader Command
  | 0 => unexpected .ending
  | n + 1 => do
    let inner := innerOf n
    let t ← next inner true
    let begun ← line
    let finish (made : Command) : TokenReader Command := do
      match ← redirections inner (n + 1) with
      | [] => return made
      | rs =>
        match made with
        | .subshell l c _ => return .subshell l c rs
        | made => return .redirected begun made rs
    match t with
    | .reserved "if" => finish (← choice n)
    | .reserved "while" | .reserved "until" =>
      let condition ← body n
      expect n "do"
      let inside ← body n
      expect n "done"
      finish (.loop (t.isReserved "until") condition inside)
    | .reserved "for" =>
      let named ← next inner false
      let name := match named with
        | .word ps => (plainText? ps).getD ""
        | _ => ""
      if !isName name then (Reader.wrong "Bad for loop variable" : Reader Unit)
      let t ← nextFilled inner true (n + 1)
      let list ←
        if t.isReserved "in" then words inner (n + 1)
        else do
          if !t.isSign ";" then back t
          pure [[Piece.double [.parameter "@" .plain []]]]
      let t ← nextFilled inner true (n + 1)
      if !t.isReserved "do" then (unexpected t (some (.reserved "do")) : TokenReader Unit)
      let inside ← body n
      expect n "done"
      finish (.each begun name list inside)
    | .reserved "case" =>
      match ← next inner false with
      | .word ps =>
        let t ← nextFilled inner true (n + 1)
        if !t.isReserved "in" then unexpected t (some (.reserved "in"))
        else finish (.select begun ps (← cases n))
      | t => unexpected t (some (.word []))
    | .reserved "\x7b" =>
      let inside ← body n
      expect n "\x7d"
      finish inside
    | .sign "(" =>
      let inside ← body n
      let t ← next inner true
      if t.isSign ")" then finish (.subshell begun inside []) else unexpected t (some (.sign ")"))
    | .word _ | .redirection _ =>
      back t
      simple n begun true [] [] []
    | t => unexpected t

/-- A command of words; those read so far are in reverse. -/
def simple : (fuel : Nat) → (begun : Nat) → (assigns : Bool) → List (String × List Piece) →
    List (List Piece) → List Redirection → TokenReader Command
  | 0, _, _, _, _, _ => unexpected .ending
  | n + 1, begun, assigns, values, found, rs => do
    let inner := innerOf n
    let t ← next inner false
    match t with
    | .word ps =>
      match assigns, assignment? ps with
      | true, some value => simple n begun true (value :: values) found rs
      | _, _ => simple n begun false values (ps :: found) rs
    | .redirection r => simple n begun assigns values found (r :: rs)
    | t =>
      match t.isSign "(", values, found, rs with
      | true, [], [name], [] =>
        let close ← next inner false
        if !close.isSign ")" then (unexpected close (some (.sign ")")) : TokenReader Unit)
        let name := (plainText? name).getD ""
        if !isName name || keptNames.contains name then (Reader.wrong "Bad function name" : Reader Unit)
        back (← nextFilled inner true (n + 1))
        return .define name (← command n)
      | _, values, found, rs =>
        back t
        return .simple begun values.reverse found.reverse rs.reverse

end

/-- What a line of a script holds. -/
inductive Line where
  | nothing
  | command (c : Command)
  | ending

/-- The next line of a script, with what follows it. -/
def readLine (s : Script) : Except ScriptFault (Line × Script) := do
  let atEnd := s.rest.isEmpty
  let ((found, _), s) ← ((list (6 * s.rest.length + 20) .line true none).run none).run s
  match found with
  | some c => return (.command c, s)
  | none => return (if atEnd || s.rest.isEmpty then .ending else .nothing, s)

end TokenReader

end Converge.Shell
