/-!
# Words of a command line

A command line is cut into words at blanks. Quotation marks keep blanks together, and a backslash
keeps one character from its meaning; between double marks it does so only for the mark and for
itself.
-/

namespace Converge.Words

/-- Why a command line is not cut into words. -/
inductive Fault where
  | unclosed
  | unescaped
deriving DecidableEq, Repr

/-- The wording of a refusal. -/
def Fault.message : Fault → String
  | unclosed => "No closing quotation"
  | unescaped => "No escaped character"

/-- A character between words. -/
def isSeparator (c : Char) : Bool := c == ' ' || c == '\t' || c == '\r' || c == '\n'

/-- A mark that opens and closes a quotation. -/
def isMark (c : Char) : Bool := c == '\'' || c == '"'

/-- Where reading stands; the characters of the current word are in reverse. -/
inductive State where
  | between
  | word (current : List Char)
  | quoted (mark : Char) (current : List Char)
  /-- After a backslash, in a quotation if there is a mark. -/
  | escaped (mark : Option Char) (current : List Char)

def wordsFrom : State → List Char → Except Fault (List (List Char))
  | .between, [] => .ok []
  | .word current, [] => .ok [current.reverse]
  | .quoted .., [] => .error .unclosed
  | .escaped .., [] => .error .unescaped
  | .between, c :: rest =>
    if isSeparator c then wordsFrom .between rest
    else if c = '\\' then wordsFrom (.escaped none []) rest
    else if isMark c then wordsFrom (.quoted c []) rest
    else wordsFrom (.word [c]) rest
  | .word current, c :: rest =>
    if isSeparator c then (wordsFrom .between rest).map (current.reverse :: ·)
    else if c = '\\' then wordsFrom (.escaped none current) rest
    else if isMark c then wordsFrom (.quoted c current) rest
    else wordsFrom (.word (c :: current)) rest
  | .quoted mark current, c :: rest =>
    if c = mark then wordsFrom (.word current) rest
    else if c = '\\' && mark = '"' then wordsFrom (.escaped (some mark) current) rest
    else wordsFrom (.quoted mark (c :: current)) rest
  | .escaped none current, c :: rest => wordsFrom (.word (c :: current)) rest
  | .escaped (some mark) current, c :: rest =>
    if c = '\\' || c = mark then wordsFrom (.quoted mark (c :: current)) rest
    else wordsFrom (.quoted mark (c :: '\\' :: current)) rest

/-- The words of a command line. -/
def split (line : String) : Except Fault (List String) :=
  (wordsFrom .between line.toList).map (·.map String.ofList)

end Converge.Words
