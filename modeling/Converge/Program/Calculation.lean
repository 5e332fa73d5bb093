import Converge.Program.Expression
import Converge.Program.Naming
import Converge.Program.Options

/-!
# Calculation

The program that works out an expression of its words: alternatives, comparisons, sums, products
and fits of regular expressions, each binding stronger than the one before.
-/

namespace Converge.Program.Calculation

open Job

/-- The words that are left, while some are read. `last` is the word read last. -/
structure Words where
  left : List String
  last : String

/-- What is wrong with the words, with the status that it gives. -/
structure Fault where
  words : String
  status : Nat

abbrev Reading := StateT Words (Except Fault)

def wrong {α : Type} (words : String) (status : Nat := 2) : Reading α := throw ⟨words, status⟩

/-- The word in front is this one, and passed. -/
def accepts (word : String) : Reading Bool := do
  match (← get).left with
  | w :: rest =>
    if w == word then
      set (⟨rest, w⟩ : Words)
      return true
    else return false
  | [] => return false

/-- The word in front, which has to be there. -/
def next : Reading String := do
  let s ← get
  match s.left with
  | w :: rest =>
    set (⟨rest, w⟩ : Words)
    return w
  | [] => wrong ("syntax error: missing argument after " ++ marked s.last)

def wholeOf? (word : String) : Option Int :=
  let (negative, body) : Bool × List Char := match word.toList with
    | '-' :: rest => (true, rest)
    | cs => (false, cs)
  match takePlainDigits 10 body with
  | (d :: ds, []) => some (if negative then -(Text.ofDigits 10 (d :: ds) : Int) else Text.ofDigits 10 (d :: ds))
  | _ => none

def number (word : String) : Reading Int :=
  match wholeOf? word with
  | some i => return i
  | none => wrong "non-integer argument"

/-- A value that counts for nothing. -/
def isNull (word : String) : Bool :=
  word == "" || (wholeOf? word == some 0)

/-- What an expression finds at the front of a text: its first group, or how much it fits. -/
def fit (text pattern : String) : Reading String :=
  match Expression.read { extended := false, ignoresCase := false } (Text.textOf pattern) with
  | .error words => wrong words
  | .ok e =>
    let s := (Text.textOf text).toList.toArray
    let found := Expression.longest (e.ends s ⟨0, []⟩)
    let hasGroup := (pattern.splitOn "\\(").length ≠ 1
    match found with
    | none => return if hasGroup then "" else "0"
    | some f =>
      if !hasGroup then return toString f.place
      else match f.groups.lookup 1 with
        | some (a, b) => return Text.octetsOf (String.ofList (s.extract a b).toList)
        | none => return ""

/-- The text of a comparison's outcome. -/
def flag (b : Bool) : String := if b then "1" else "0"

/-- How two values compare: as numbers where both are. -/
def comparison? (word : String) : Option (String → String → Bool) :=
  let made (numbers : Int → Int → Bool) (texts : String → String → Bool) (a b : String) : Bool :=
    match wholeOf? a, wholeOf? b with
    | some x, some y => numbers x y
    | _, _ => texts a b
  match word with
  | "<" => some (made (fun x y => x < y) fun x y => x < y)
  | "<=" => some (made (fun x y => x ≤ y) fun x y => !(y < x))
  | "=" | "==" => some (made (fun x y => x == y) fun x y => x == y)
  | "!=" => some (made (fun x y => x != y) fun x y => x != y)
  | ">=" => some (made (fun x y => y ≤ x) fun x y => !(x < y))
  | ">" => some (made (fun x y => y < x) fun x y => y < x)
  | _ => none

mutual

/-- A value by itself, in brackets or behind a name. -/
def single : (fuel : Nat) → Reading String
  | 0 => wrong "syntax error"
  | fuel + 1 => do
    let word ← next
    match word with
    | "(" =>
      let value ← level fuel 0
      if ← accepts ")" then return value
      else match (← get).left with
        | w :: _ => wrong ("syntax error: expecting ')' instead of " ++ marked w)
        | [] => wrong ("syntax error: expecting ')' after " ++ marked (← get).last)
    | ")" => wrong "syntax error: unexpected ')'"
    | "+" => next
    | "length" => return toString ((Text.textOf (← single fuel)).length)
    | "match" =>
      let a ← single fuel
      fit a (← single fuel)
    | "index" =>
      let a := (Text.textOf (← single fuel)).toList
      let b := (Text.textOf (← single fuel)).toList
      let front := a.takeWhile fun c => !b.contains c
      return toString (if front.length = a.length then 0 else front.length + 1)
    | "substr" =>
      let text := (Text.textOf (← single fuel)).toList
      let first := (wholeOf? (← single fuel)).getD 0
      let count := (wholeOf? (← single fuel)).getD 0
      if first ≤ 0 || count ≤ 0 then return ""
      else return Text.octetsOf (String.ofList ((text.drop (first.toNat - 1)).take count.toNat))
    | word => return word

/-- Values joined by the signs of a level: alternatives, conjunctions, comparisons, sums, products and
fits. -/
def level : (fuel : Nat) → (rank : Nat) → Reading String
  | 0, _ => wrong "syntax error"
  | fuel + 1, rank => do
    if 6 ≤ rank then single fuel
    else
      let first ← level fuel (rank + 1)
      more fuel rank first

/-- A value with those that signs of a level join to it. -/
def more : (fuel : Nat) → (rank : Nat) → String → Reading String
  | 0, _, _ => wrong "syntax error"
  | fuel + 1, rank, value => do
    let operator := ((← get).left).headD ""
    let signs := match rank with
      | 0 => ["|"]
      | 1 => ["&"]
      | 2 => ["<", "<=", "=", "==", "!=", ">=", ">"]
      | 3 => ["+", "-"]
      | 4 => ["*", "/", "%"]
      | _ => [":"]
    if !signs.contains operator || (← get).left.isEmpty then return value
    else
      let _ ← next
      let other ← level fuel (rank + 1)
      let joined : Reading String := do
        match operator with
        | "|" => return if isNull value then (if isNull other then "0" else other) else value
        | "&" => return if isNull value || isNull other then "0" else value
        | ":" => fit value other
        | "+" => return toString ((← number value) + (← number other))
        | "-" => return toString ((← number value) - (← number other))
        | "*" => return toString ((← number value) * (← number other))
        | "/" | "%" =>
          let a ← number value
          let b ← number other
          if b = 0 then wrong "division by zero"
          else return toString (if operator == "/" then a.tdiv b else a.tmod b)
        | operator => return flag (((comparison? operator).map fun f => f value other).getD false)
      more fuel rank (← joined)

end

def value (words : List String) : Except Fault String := do
  let (value, s) ← (level (20 * words.length + 20) 0).run ⟨words, ""⟩
  match s.left with
  | [] => return value
  | extra :: _ => throw ⟨"syntax error: unexpected argument " ++ marked extra, 2⟩

/-- The program that works out an expression of its words. -/
def expr (arguments : List String) : Job Unit := do
  let words := match arguments with
    | "--" :: rest => rest
    | words => words
  if words.isEmpty then misuse "missing operand" 2
  match value words with
  | .error fault => refuse fault.words fault.status
  | .ok value =>
    sayLine value
    settle (if isNull value then 1 else 0)

end Converge.Program.Calculation
