import Converge.Document.Style
import Converge.Text.Quoted

/-!
# Writing on lines

A sheet is the text written so far, with what decides whether the next word needs a space or a new
line before it. A scalar that passes the eightieth column goes on in a new line where it may.
-/

namespace Converge.Document

/-- The text so far, in reverse, and how its last line ends. -/
structure Sheet where
  written : List Char
  column : Nat
  /-- Nothing, a space or a line end stands last. -/
  spaced : Bool
  /-- The line holds nothing but indentation and signs that indent. -/
  fresh : Bool
  /-- The text could go on, so that its end must be marked. -/
  unfinished : Bool

namespace Sheet

/-- The sheet before anything is written. -/
def blank : Sheet := ⟨[], 0, true, true, false⟩

/-- The column after which a scalar goes on in a new line. -/
def width : Nat := 80

/-- How many columns a level of nesting takes. -/
def tab : Nat := 2

/-- Characters on the current line. -/
def put (s : Sheet) (chars : List Char) : Sheet :=
  { s with written := chars.reverse ++ s.written, column := s.column + chars.length }

def newLine (s : Sheet) : Sheet :=
  { s with written := '\n' :: s.written, column := 0, spaced := true, fresh := true }

/-- The next line at a column, or the current one where it still holds only indentation. -/
def indentTo (s : Sheet) (column : Nat) : Sheet :=
  let s := if !s.fresh || column < s.column || (s.column == column && !s.spaced) then s.newLine else s
  if s.column < column then { s.put (List.replicate (column - s.column) ' ') with spaced := true } else s

/-- A sign that keeps a line fresh, after a space where one is needed. -/
def indentSign (s : Sheet) (sign : String) : Sheet :=
  let chars := if s.spaced then sign.toList else ' ' :: sign.toList
  { s.put chars with spaced := false, unfinished := false }

/-- A sign, after a space where one is needed. -/
def sign (s : Sheet) (sign : String) : Sheet :=
  { s.indentSign sign with fresh := false }

/-- A sign directly after what stands before it. -/
def tightSign (s : Sheet) (sign : String) : Sheet :=
  { s.put sign.toList with spaced := false, fresh := false, unfinished := false }

/-- The class of a character for folding: a space, a line feed or neither. -/
def foldClass (c : Char) : Nat := if c == ' ' then 0 else if c == '\n' then 1 else 2

def runs (s : List Char) : List (List Char) := s.splitBy fun a b => foldClass a == foldClass b

/-- Runs of a scalar; `write` puts a word, `folds` says whether a single space may become a new
line, given that it stands first or last. -/
def putRuns (indent : Nat) (write : List Char → List Char) (folds : (first last : Bool) → Bool) :
    (first : Bool) → List (List Char) → Sheet → Sheet
  | _, [], s => s
  | first, run :: rest, s =>
    let s := match run with
      | ' ' :: more =>
        if more.isEmpty && width < s.column && folds first rest.isEmpty then s.indentTo indent
        else s.put run
      | '\n' :: _ =>
        (run.foldl (fun s _ => s.newLine) s.newLine).indentTo indent
      | _ => s.put (write run)
    putRuns indent write folds false rest s

/-- A plain scalar; `asKey` forbids a new line in it. -/
def plain (s : Sheet) (indent : Nat) (asKey : Bool) (text : List Char) : Sheet :=
  if text.isEmpty then s
  else
    let s := if s.spaced then s else s.put [' ']
    let s := putRuns indent id (fun _ _ => !asKey) true (runs text) { s with spaced := false, fresh := false }
    { s with spaced := false, fresh := false }

/-- A scalar between single quotation marks. -/
def single (s : Sheet) (indent : Nat) (asKey : Bool) (text : List Char) : Sheet :=
  let double (c : Char) : List Char := if c == '\'' then ['\'', '\''] else [c]
  let s := putRuns indent (·.flatMap double) (fun first last => !asKey && !first && !last) true
    (runs text) (s.sign "'")
  s.tightSign "'"

/-- What is written for a character between double quotation marks, when it is not itself. -/
def escape? (c : Char) : Option (List Char) :=
  let n := (Text.surrogate? c).getD c.toNat
  let hex (mark : Char) (width : Nat) := '\\' :: mark :: (Text.hexDigits width n).map Char.toUpper
  match c with
  | '\x00' => some ['\\', '0']
  | '\x07' => some ['\\', 'a']
  | '\x08' => some ['\\', 'b']
  | '\t' => some ['\\', 't']
  | '\n' => some ['\\', 'n']
  | '\x0b' => some ['\\', 'v']
  | '\x0c' => some ['\\', 'f']
  | '\r' => some ['\\', 'r']
  | '\x1b' => some ['\\', 'e']
  | '"' => some ['\\', '"']
  | '\\' => some ['\\', '\\']
  | '\u0085' => some ['\\', 'N']
  | '\u00a0' => some ['\\', '_']
  | '\u2028' => some ['\\', 'L']
  | '\u2029' => some ['\\', 'P']
  | _ =>
    if ' ' ≤ c && c ≤ '~' then none
    else if n ≤ 0xFF then some (hex 'x' 2)
    else if n ≤ 0xFFFF then some (hex 'u' 4)
    else some (hex 'U' 8)

/-- The characters between double quotation marks; `run` are those read and not yet written, in
reverse. -/
def putEscaped (indent : Nat) (asKey : Bool) :
    (first : Bool) → (run : List Char) → List Char → Sheet → Sheet
  | _, run, [], s => s.put run.reverse
  | first, run, c :: rest, s =>
    let inside := !first && !rest.isEmpty && !asKey
    let turn (s : Sheet) (next : Option Char) : Sheet :=
      let s := { (s.put ['\\']).indentTo indent with spaced := false, fresh := false }
      if next == some ' ' then s.put ['\\'] else s
    match escape? c with
    | some chars =>
      let s := (s.put run.reverse).put chars
      let s := if inside && width < s.column - 1 then turn s rest.head? else s
      putEscaped indent asKey false [] rest s
    | none =>
      if inside && (c == ' ' || run.isEmpty) && width < s.column + run.length then
        putEscaped indent asKey false [c] rest (turn (s.put run.reverse) (some c))
      else putEscaped indent asKey false (c :: run) rest s

/-- A scalar between double quotation marks. -/
def double (s : Sheet) (indent : Nat) (asKey : Bool) (text : List Char) : Sheet :=
  (putEscaped indent asKey true [] text (s.sign "\"")).tightSign "\""

/-- Lines under a sign, each at the column. -/
def literal (s : Sheet) (indent : Nat) (text : List Char) : Sheet :=
  let lines (s : Sheet) (run : List Char) : Sheet :=
    if run.head? == some '\n' then run.foldl (fun s _ => s.newLine) s
    else
      let s := s.indentTo indent
      { s with written := run.reverse ++ s.written }
  (runs text).foldl lines (s.sign "|").newLine

def scalar (s : Sheet) (indent : Nat) (asKey : Bool) (w : Written) : Sheet :=
  match w.style asKey with
  | .plain => s.plain indent asKey w.text
  | .single => s.single indent asKey w.text
  | .double => s.double indent asKey w.text
  | .literal => s.literal indent w.text

end Sheet

end Converge.Document
