import Converge.Program.Basic
import Converge.Program.Naming
import Converge.Program.Numeral

/-!
# Questions

Questions about files, texts and numbers, whose answer is a status. The program of the system looks
at the number of its words first; the one inside of a shell reads them one after the other.
-/

namespace Converge.Program

/-- The files about which questions are asked, and the directory from which paths lead. -/
structure Scene where
  files : FileSystem
  cwd : Place

namespace Scene

def entry? (s : Scene) (path : String) (follow : Bool := true) : Option (Place × Entry) :=
  (s.files.stat s.cwd follow (Text.textOf path)).toOption

/-- A path that stands for one of the places for input and output. -/
def isOutlet (path : String) : Bool := path == "/dev/null" || path.startsWith "/dev/fd/"

def holds (s : Scene) (letter : Char) (path : String) : Bool :=
  let entry : Option Entry := (s.entry? path).map (·.2)
  let hasBit (bit : Nat) : Bool := entry.any fun e => e.mode &&& bit != 0
  match letter with
  | 'e' | 'r' | 'w' | 'O' | 'G' | 'N' => entry.isSome
  | 'f' => match entry with
    | some (.file ..) => !isOutlet path
    | _ => false
  | 'd' => match entry with
    | some (.directory _) => true
    | _ => false
  | 'h' | 'L' => match s.entry? path false with
    | some (_, .link _) => true
    | _ => false
  | 's' => match entry with
    | some (.file content _) => !content.isEmpty
    | some _ => true
    | none => false
  | 'x' => match entry with
    | some (.directory _) => true
    | some e => e.mode &&& 0o111 ≠ 0
    | none => false
  | 'u' => hasBit 0o4000
  | 'g' => hasBit 0o2000
  | 'k' => hasBit 0o1000
  | 'c' => entry.isSome && isOutlet path
  | _ => false

/-- Two paths lead to the same place. -/
def same (s : Scene) (a b : String) : Bool :=
  match s.entry? a, s.entry? b with
  | some (p, _), some (q, _) => p == q
  | _, _ => false

/-- The first of two files is there and the second is not. -/
def onlyFirst (s : Scene) (a b : String) : Bool :=
  (s.entry? a).isSome && (s.entry? b).isNone

end Scene

/-- How two numbers compare, as a word says; none for a word that says nothing about numbers. -/
def comparison? (word : String) : Option (Int → Int → Bool) :=
  match word with
  | "-eq" => some fun a b => a == b
  | "-ne" => some fun a b => a != b
  | "-lt" => some fun a b => a < b
  | "-le" => some fun a b => a ≤ b
  | "-gt" => some fun a b => b < a
  | "-ge" => some fun a b => b ≤ a
  | _ => none

/-- The number that a word writes, with blanks around it. -/
def numberWord? (word : String) : Option Int :=
  let (negative, body) := Text.takeSign (word.toList.dropWhile isNumeralBlank)
  match takePlainDigits 10 body with
  | ([], _) => none
  | (ds, rest) =>
    if rest.all fun c => c == ' ' || c == '\t' then
      some (if negative then -(Text.ofDigits 10 ds : Int) else Text.ofDigits 10 ds)
    else none

/-! ## The question of the system -/

/-- Words that are left, and the complaint that ends the reading of them. -/
abbrev Reading := StateT (List String) (Except String)

/-- A question as the system reads it. -/
structure Question where
  scene : Scene
  /-- All of the words. -/
  words : List String

namespace Question

/-- The complaint that the words end too early. -/
def beyond {α : Type} (q : Question) : Reading α :=
  throw ("missing argument after " ++ marked (q.words.getLastD ""))

/-- One word is passed; `more` says that another has to follow. -/
def advance (q : Question) (more : Bool) : Reading Unit := do
  let rest := (← get).tail
  set rest
  if more && rest.isEmpty then q.beyond

/-- A word between two others that compares them. -/
def isBinary (word : String) : Bool :=
  ["=", "==", "!=", "-nt", "-ot", "-ef"].contains word || (comparison? word).isSome

def isLetter (word : String) : Bool :=
  match word.toList with
  | ['-', _] => true
  | _ => false

/-- The number of a word, or the complaint that it is none. -/
def number (word : String) : Reading Int :=
  match numberWord? word with
  | some i => return i
  | none => throw ("invalid integer " ++ marked word)

/-- A letter behind a dash and what it asks about. -/
def unary (q : Question) : Reading Bool := do
  let option := (← get).headD ""
  let letter := (option.toList.drop 1).headD '-'
  if !("erwxNOGfdsScbpLhugktnz".contains letter) then
    throw (marked option ++ ": unary operator expected")
  q.advance true
  let operand := (← get).headD ""
  modify (·.tail)
  match letter with
  | 'n' => return operand != ""
  | 'z' => return operand == ""
  | 't' => do
    let _ ← number operand
    return false
  | letter => return q.scene.holds letter operand

/-- Two words with a comparison between them; either may be the length of the word behind `-l`. -/
def binary (q : Question) (leftLength : Bool) : Reading Bool := do
  if leftLength then q.advance false
  let words ← get
  let left := words.headD ""
  let operator := (words.drop 1).headD ""
  let rightLength := (words.drop 2).head? == some "-l" && 4 ≤ words.length
  if rightLength then modify (·.tail)
  let right := (words.drop (if rightLength then 3 else 2)).headD ""
  modify (·.drop 3)
  let value (isLength : Bool) (word : String) : Reading Int :=
    if isLength then return (word.length : Int) else number word
  match comparison? operator with
  | some compare => do
    let a ← value leftLength left
    let b ← value rightLength right
    return compare a b
  | none =>
    match operator with
    | "-nt" | "-ot" | "-ef" =>
      if leftLength || rightLength then throw (operator ++ " does not accept -l")
      else if operator == "-ef" then return q.scene.same left right
      else if operator == "-nt" then return q.scene.onlyFirst left right
      else return q.scene.onlyFirst right left
    | "!=" => return left != right
    | _ => return left == right

/-- One word, which holds when it is not empty. -/
def one : Reading Bool := do
  let word := (← get).headD ""
  modify (·.tail)
  return word != ""

def two (q : Question) : Reading Bool := do
  let word := (← get).headD ""
  if word == "!" then
    q.advance false
    return !(← one)
  else if isLetter word then q.unary
  else q.beyond

mutual

/-- Words by their number: up to four have a meaning of their own. -/
def byCount (q : Question) : (fuel : Nat) → (count : Nat) → Reading Bool
  | 0, _ => q.beyond
  | fuel + 1, count => do
    let words ← get
    let at? (i : Nat) := (words.drop i).headD ""
    let three : Reading Bool := do
      let words ← get
      let at? (i : Nat) := (words.drop i).headD ""
      if isBinary (at? 1) then q.binary false
      else if at? 0 == "!" then
        q.advance true
        return !(← q.two)
      else if at? 0 == "(" && at? 2 == ")" then
        q.advance false
        let answer ← one
        q.advance false
        return answer
      else if at? 1 == "-a" || at? 1 == "-o" then q.alternatives fuel
      else throw (marked (at? 1) ++ ": binary operator expected")
    match count with
    | 1 => one
    | 2 => q.two
    | 3 => three
    | 4 =>
      if at? 0 == "!" then
        q.advance true
        return !(← three)
      else if at? 0 == "(" && at? 3 == ")" then
        q.advance false
        let answer ← q.two
        q.advance false
        return answer
      else q.alternatives fuel
    | _ => q.alternatives fuel

/-- Terms of which one has to hold. -/
def alternatives (q : Question) : (fuel : Nat) → Reading Bool
  | 0 => q.beyond
  | fuel + 1 => do
    let first ← q.conjunction fuel
    if (← get).head? == some "-o" then
      q.advance false
      let others ← q.alternatives fuel
      return first || others
    else return first

/-- Terms all of which have to hold. -/
def conjunction (q : Question) : (fuel : Nat) → Reading Bool
  | 0 => q.beyond
  | fuel + 1 => do
    let first ← q.term fuel false
    if (← get).head? == some "-a" then
      q.advance false
      let others ← q.conjunction fuel
      return first && others
    else return first

/-- A single question, perhaps in brackets or turned round. -/
def term (q : Question) : (fuel : Nat) → (turned : Bool) → Reading Bool
  | 0, _ => q.beyond
  | fuel + 1, turned => do
    let words ← get
    let at? (i : Nat) := (words.drop i).headD ""
    if words.isEmpty then q.beyond
    else if at? 0 == "!" then
      q.advance true
      q.term fuel !turned
    else if at? 0 == "(" then
      q.advance true
      let inside ← get
      let ahead := (inside.drop 1).takeWhile (· != ")")
      let answer ← q.byCount fuel (if 4 ≤ ahead.length + 1 then inside.length else ahead.length + 1)
      match (← get).head? with
      | none => throw (marked ")" ++ " expected")
      | some ")" =>
        q.advance false
        return answer != turned
      | some other => throw (marked ")" ++ " expected, found " ++ marked other)
    else if 4 ≤ words.length && at? 0 == "-l" && isBinary (at? 2) then
      return (← q.binary true) != turned
    else if 3 ≤ words.length && isBinary (at? 1) then return (← q.binary false) != turned
    else if isLetter (at? 0) then return (← q.unary) != turned
    else return (← one) != turned

end

def answer (q : Question) : Except String Bool :=
  if q.words.isEmpty then .ok false
  else do
    let (answer, rest) ← (q.byCount (4 * q.words.length + 4) q.words.length).run q.words
    match rest with
    | [] => return answer
    | extra :: _ => throw ("extra argument " ++ marked extra)

end Question

/-! ## The question of a shell -/

/-- What a word is to the question of a shell. -/
inductive Sign where
  | operand
  | unary (letter : Char)
  | binary (word : String)
  | turn
  | and
  | or
  | opening
  | closing
  | ending
deriving DecidableEq

namespace ShellQuestion

def signOf (word : String) : Sign :=
  if Question.isBinary word && word != "==" then .binary word
  else match word with
    | "<" | ">" => .binary word
    | "!" => .turn
    | "-a" => .and
    | "-o" => .or
    | "(" => .opening
    | ")" => .closing
    | word => match word.toList with
      | ['-', c] => if "rwxefdcbpugkstznhOGLS".contains c then .unary c else .operand
      | _ => .operand

/-- What the word in front is: a letter behind a dash is an operand where nothing follows it or a
comparison does. -/
def lex (words : List String) : Sign :=
  match words with
  | [] => .ending
  | word :: rest =>
    match signOf word, rest with
    | .unary _, [] => .operand
    | .unary letter, next :: _ :: _ => match signOf next with
      | .binary _ => .operand
      | _ => .unary letter
    | .opening, [] => .operand
    | sign, _ => sign

def number (word : String) : Reading Int :=
  match numberWord? word with
  | some i =>
    if -9223372036854775808 ≤ i ∧ i ≤ 9223372036854775807 then return i
    else throw ("Illegal number: " ++ word)
  | none => throw ("Illegal number: " ++ word)

/-- Two words with a comparison between them; the last of them stays in front. -/
def compare (s : Scene) : Reading Bool := do
  let words ← get
  let operator := (words.drop 1).headD ""
  match words with
  | left :: _ :: right :: rest =>
    set (right :: rest)
    match comparison? operator with
    | some holds => do
      let a ← number left
      let b ← number right
      return holds a b
    | none =>
      match operator with
      | "=" => return left == right
      | "!=" => return left != right
      | "<" => return left < right
      | ">" => return right < left
      | "-ef" => return s.same left right
      | _ => return false
  | _ => throw (operator ++ ": argument expected")

mutual

/-- Terms of which one has to hold; the last word read stays in front. -/
def alternatives (s : Scene) : (fuel : Nat) → Reading Bool
  | 0 => return false
  | fuel + 1 => do
    let first ← conjunction s fuel
    if lex (← get).tail = .or then
      modify (·.drop 2)
      let others ← alternatives s fuel
      return first || others
    else return first

/-- Terms all of which have to hold. -/
def conjunction (s : Scene) : (fuel : Nat) → Reading Bool
  | 0 => return false
  | fuel + 1 => do
    let first ← turned s fuel
    if lex (← get).tail = .and then
      modify (·.drop 2)
      let others ← conjunction s fuel
      return first && others
    else return first

/-- A single question, perhaps turned round. -/
def turned (s : Scene) : (fuel : Nat) → Reading Bool
  | 0 => return false
  | fuel + 1 => do
    let words ← get
    if lex words = .turn then
      if lex words.tail ≠ .ending then
        set words.tail
        return !(← turned s fuel)
      else return true
    else single s fuel

def single (s : Scene) : (fuel : Nat) → Reading Bool
  | 0 => return false
  | fuel + 1 => do
    let words ← get
    match lex words with
    | .ending => return false
    | .opening =>
      set words.tail
      if lex words.tail = .closing then return false
      else
        let answer ← alternatives s fuel
        modify (·.tail)
        if lex (← get) = .closing then return answer else throw "closing paren expected"
    | .unary letter =>
      match words.tail with
      | [] => throw (words.headD "" ++ ": argument expected")
      | operand :: rest =>
        set (operand :: rest)
        match letter with
        | 'z' => return operand == ""
        | 'n' => return operand != ""
        | 't' =>
          let _ ← number operand
          return false
        | letter => return s.holds letter operand
    | _ =>
      match lex words.tail with
      | .binary _ => compare s
      | _ => return words.headD "" != ""

end

/-- The words read from the front; one that is left over is a complaint. -/
def whole (s : Scene) (words : List String) : Except String Bool := do
  let (answer, rest) ← (alternatives s (4 * words.length + 4)).run words
  match rest with
  | word :: _ :: _ => throw (if word == "" then "unexpected operator" else word ++ ": unexpected operator")
  | _ => return answer

def answer (s : Scene) : (fuel : Nat) → List String → Except String Bool
  | 0, _ => .ok false
  | fuel + 1, words =>
    match words with
    | [] => .ok false
    | [a, operator, b] =>
      match signOf operator with
      | .binary _ => (compare s).run' [a, operator, b]
      | _ => bracketed fuel words
    | [_, _, _, _] => bracketed fuel words
    | words => whole s words
where
  /-- Brackets around all of the words, or a turn in front of them; a second turn adds nothing. -/
  bracketed (fuel : Nat) (words : List String) : Except String Bool :=
    if words.head? == some "(" && words.getLast? == some ")" then whole s words.tail.dropLast
    else
      match words with
      | ["!", "!", "!", a] => answer s fuel ["!", "!", a]
      | "!" :: rest => (answer s fuel rest).map (!·)
      | words => whole s words

end ShellQuestion

/-- The program that answers a question; in brackets the last word has to be a bracket. -/
def question (shell brackets : Bool) (arguments : List String) : Job Unit := do
  let missing := if shell then "missing ]" else "missing " ++ marked "]"
  let words ←
    if !brackets then pure arguments
    else if arguments.getLast? == some "]" then pure arguments.dropLast
    else Job.refuse missing 2
  let w ← get
  let scene : Scene := ⟨w.files, w.cwd⟩
  let answer :=
    if shell then ShellQuestion.answer scene (words.length + 1) words
    else Question.answer ⟨scene, words⟩
  match answer with
  | .ok holds => Job.settle (if holds then 0 else 1)
  | .error words => Job.refuse words 2

end Converge.Program
