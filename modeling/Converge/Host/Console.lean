import Converge.Text.Lines
import Converge.Text.Surrogate

/-!
# The console

What a run prints, on the usual output and on that for errors, and the records that it logs. From a
threshold on, when there is one, records appear among the errors too. A console that prints bytes
refuses a text with surrogates on the usual output, and writes them as escapes among the errors.
-/

namespace Converge

/-- The weight of a record. -/
inductive Level where
  | debug
  | info
  | warning
deriving DecidableEq, Repr

namespace Level

def word : Level → String
  | debug => "DEBUG"
  | info => "INFO"
  | warning => "WARNING"

def weight : Level → Nat
  | debug => 0
  | info => 1
  | warning => 2

end Level

/-- A record of the log. -/
structure Record where
  level : Level
  message : String
deriving DecidableEq, Repr

/-- What has been printed and logged so far. -/
structure Console where
  out : String
  err : String
  records : List Record
  threshold : Option Level
  /-- What is printed becomes bytes. -/
  asBytes : Bool

namespace Console

/-- The console before anything is printed. -/
def blank : Console := ⟨"", "", [], none, false⟩

/-- A character between the start of a control sequence and the letter that ends it. -/
def isControlArgument (c : Char) : Bool := c.isDigit || c == ';' || c == '?'

/-- The characters without control sequences: an escape, a bracket, arguments and a letter. -/
def withoutControls : (fuel : Nat) → List Char → List Char
  | 0, s => s
  | _ + 1, [] => []
  | fuel + 1, '\x1b' :: '[' :: rest =>
    match rest.dropWhile isControlArgument with
    | c :: after =>
      if c.isAlpha then withoutControls fuel after
      else '\x1b' :: withoutControls fuel ('[' :: rest)
    | [] => '\x1b' :: withoutControls fuel ('[' :: rest)
  | fuel + 1, c :: rest => c :: withoutControls fuel rest

def lineOf (text : String) : String :=
  let chars := (text ++ "\n").toList
  String.ofList (withoutControls chars.length chars)

/-- A line on the usual output. -/
def print (c : Console) (text : String) : Except Text.EncodeFault Console := do
  let line := lineOf text
  if c.asBytes then
    let _ ← Text.encode line
  return { c with out := c.out ++ line }

def errorText (c : Console) (text : String) : String :=
  if c.asBytes then Text.escapeSurrogates text else text

/-- A line on the output for errors. -/
def printError (c : Console) (text : String) : Console :=
  { c with err := c.err ++ c.errorText (lineOf text) }

/-- A record, among the errors too from the threshold on. -/
def log (c : Console) (level : Level) (message : String) : Console :=
  let c := { c with records := c.records ++ [(⟨level, message⟩ : Record)] }
  match c.threshold with
  | none => c
  | some least =>
    if least.weight ≤ level.weight then
      { c with err := c.err ++ level.word ++ ": " ++ c.errorText message ++ "\n" }
    else c

end Console

end Converge
