import Converge.Program.Numeral
import Converge.Shell.Command

/-!
# Calculations of a shell

Whole numbers of 64 bits with the operators of the usual precedence. Variables are read and set;
what is not worked out, because of what stands before it, sets nothing and cannot fail.
-/

namespace Converge.Shell.Arithmetic

/-- What stands in a calculation. -/
inductive Token where
  | number (i : Int)
  | variable (name : String)
  | operator (s : String)
  /-- A character that is none of these. -/
  | unknown
  | ending

/-- A number brought into 64 bits. -/
def wrap (i : Int) : Int := Int.bmod i 18446744073709551616

def operators : List String :=
  ["<<=", ">>=", "<<", ">>", "<=", ">=", "==", "!=", "&&", "||", "+=", "-=", "*=", "/=", "%=", "&=", "^=",
    "|=", "<", ">", "=", "&", "|", "^", "+", "-", "*", "/", "%", "!", "~", "(", ")", "?", ":"]

def token (s : List Char) : Token × List Char :=
  let s := s.dropWhile fun c => c == ' ' || c == '\t' || c == '\n'
  match s with
  | [] => (.ending, [])
  | c :: _ =>
    if c.isDigit then
      let (n, rest) := Program.takeNatural s
      (.number (min (n.getD 0) 9223372036854775807), rest)
    else if beginsName c then
      (.variable (String.ofList (s.takeWhile isNameChar)), s.dropWhile isNameChar)
    else match operators.find? fun o => o.toList.isPrefixOf s with
      | some o => (.operator o, s.drop o.length)
      | none => (.unknown, s.drop 1)

def tokens : (fuel : Nat) → List Char → List Token
  | 0, _ => []
  | fuel + 1, s =>
    match token s with
    | (.ending, _) => []
    | (t, rest) => t :: tokens fuel rest

/-- What a calculation reads and sets. -/
structure State where
  left : List Token
  /-- The number of a variable, or what is wrong with it. -/
  lookup : String → Except String Int
  /-- What has been set, the newest first. -/
  assigned : List (String × Int)

abbrev Calculation := StateT State (Except String)

/-- The operator in front is this one, and passed. -/
def accepts (o : String) : Calculation Bool := do
  let s ← get
  match s.left with
  | .operator p :: rest =>
    if p == o then
      set { s with left := rest }
      return true
    else return false
  | _ => return false

/-- The number of a variable. -/
def valueOf (name : String) : Calculation Int := do
  let s ← get
  match s.assigned.lookup name with
  | some i => return i
  | none => match s.lookup name with
    | .ok i => return i
    | .error words => throw words

/-- The number of a comparison's outcome. -/
def flag (b : Bool) : Int := if b then 1 else 0

/-- Two numbers joined by an operator; `runs` says that the outcome counts. -/
def join (runs : Bool) (o : String) (a b : Int) : Calculation Int :=
  let word (i : Int) : Nat := (i % 18446744073709551616).toNat
  let bits (f : Nat → Nat → Nat) : Int := wrap (f (word a) (word b))
  let shift : Nat := (b % 64).toNat
  match o with
  | "+" => return wrap (a + b)
  | "-" => return wrap (a - b)
  | "*" => return wrap (a * b)
  | "/" | "%" =>
    if b = 0 then (if runs then throw "division by zero" else return 0)
    else return wrap (if o == "/" then a.tdiv b else a.tmod b)
  | "<<" => return wrap (a * (Nat.pow 2 shift : Nat))
  | ">>" => return a / (Nat.pow 2 shift : Nat)
  | "<" => return flag (a < b)
  | ">" => return flag (b < a)
  | "<=" => return flag (a ≤ b)
  | ">=" => return flag (b ≤ a)
  | "==" => return flag (a == b)
  | "!=" => return flag (a != b)
  | "&" => return bits Nat.land
  | "^" => return bits Nat.xor
  | _ => return bits Nat.lor

/-- The operators of a rank, those that bind least first. -/
def operatorsAt (rank : Nat) : List String :=
  match rank with
  | 0 => ["|"]
  | 1 => ["^"]
  | 2 => ["&"]
  | 3 => ["==", "!="]
  | 4 => ["<", ">", "<=", ">="]
  | 5 => ["<<", ">>"]
  | 6 => ["+", "-"]
  | _ => ["*", "/", "%"]

mutual

/-- An assignment, or a choice between two numbers. -/
def whole : (fuel : Nat) → (runs : Bool) → Calculation Int
  | 0, _ => throw "expecting primary"
  | fuel + 1, runs => do
    let s ← get
    match s.left with
    | .variable name :: .operator o :: rest =>
      let front := String.ofList o.toList.dropLast
      let isCompound := o.endsWith "=" && ["+", "-", "*", "/", "%", "<<", ">>", "&", "^", "|"].contains front
      if o == "=" || isCompound then
        set { s with left := rest }
        let right ← whole fuel runs
        let value ← if o == "=" then pure right else join runs front (← valueOf name) right
        if runs then modify fun s => { s with assigned := (name, value) :: s.assigned }
        return value
      else choice fuel runs
    | _ => choice fuel runs

def choice : (fuel : Nat) → (runs : Bool) → Calculation Int
  | 0, _ => throw "expecting primary"
  | fuel + 1, runs => do
    let condition ← either fuel runs
    if ← accepts "?" then
      let yes ← whole fuel (runs && condition != 0)
      if !(← accepts ":") then throw "expecting ':'"
      let no ← choice fuel (runs && condition == 0)
      return if condition != 0 then yes else no
    else return condition

/-- Numbers of which one has to be other than zero. -/
def either : (fuel : Nat) → (runs : Bool) → Calculation Int
  | 0, _ => throw "expecting primary"
  | fuel + 1, runs => do
    let first ← both fuel runs
    if ← accepts "||" then
      let others ← either fuel (runs && first == 0)
      return flag (first != 0 || others != 0)
    else return first

/-- Numbers all of which have to be other than zero. -/
def both : (fuel : Nat) → (runs : Bool) → Calculation Int
  | 0, _ => throw "expecting primary"
  | fuel + 1, runs => do
    let first ← ranked fuel runs 0
    if ← accepts "&&" then
      let others ← both fuel (runs && first != 0)
      return flag (first != 0 && others != 0)
    else return first

/-- Numbers joined by operators of a rank and those that bind more. -/
def ranked : (fuel : Nat) → (runs : Bool) → (rank : Nat) → Calculation Int
  | 0, _, _ => throw "expecting primary"
  | fuel + 1, runs, rank => do
    if 8 ≤ rank then single fuel runs
    else
      let first ← ranked fuel runs (rank + 1)
      more fuel runs rank first

/-- A number with those that operators of a rank join to it. -/
def more : (fuel : Nat) → (runs : Bool) → (rank : Nat) → Int → Calculation Int
  | 0, _, _, _ => throw "expecting primary"
  | fuel + 1, runs, rank, value => do
    let s ← get
    match s.left with
    | .operator o :: rest =>
      if (operatorsAt rank).contains o then
        set { s with left := rest }
        let other ← ranked fuel runs (rank + 1)
        more fuel runs rank (← join runs o value other)
      else return value
    | _ => return value

/-- A number, a variable or a calculation in brackets, with signs in front. -/
def single : (fuel : Nat) → (runs : Bool) → Calculation Int
  | 0, _ => throw "expecting primary"
  | fuel + 1, runs => do
    let s ← get
    let pass : Calculation Unit := set { s with left := s.left.tail }
    match s.left with
    | .number i :: _ =>
      pass
      return i
    | .variable name :: _ =>
      pass
      if runs then valueOf name else return 0
    | .operator "(" :: _ =>
      pass
      let i ← whole fuel runs
      if ← accepts ")" then return i else throw "expecting ')'"
    | .operator "!" :: _ =>
      pass
      return flag ((← single fuel runs) == 0)
    | .operator "~" :: _ =>
      pass
      return wrap (-(← single fuel runs) - 1)
    | .operator "-" :: _ =>
      pass
      return wrap (-(← single fuel runs))
    | .operator "+" :: _ =>
      pass
      single fuel runs
    | _ => throw "expecting primary"

end

/-- What is wrong with a calculation: with its writing, or with a variable in it. -/
inductive Fault where
  | calculation (words : String)
  | variable (words : String)

/-- The number of a calculation and what it sets. -/
def evaluate (lookup : String → Except String Int) (text : String) : Except Fault (Int × List (String × Int)) :=
  let shown (words : String) : String := "arithmetic expression: " ++ words ++ ": \"" ++ text ++ "\""
  let fault (words : String) : Fault :=
    if words.startsWith "Illegal number" then .variable words else .calculation (shown words)
  let all := tokens (text.length + 1) text.toList
  match (whole (20 * all.length + 40) true).run ⟨all, lookup, []⟩ with
  | .error words => .error (fault words)
  | .ok (i, s) =>
    if s.left.isEmpty then .ok (i, s.assigned)
    else .error (.calculation (shown "expecting EOF"))

end Converge.Shell.Arithmetic
