/-!
# Commands of a shell

A command as it is written: words in pieces, redirections and the ways to put commands together.
-/

namespace Converge.Shell

/-- What is made of the value of a parameter. -/
inductive Use where
  | plain
  | length
  /-- A word in the place of a missing value; `empty` says that an empty value is missing too. -/
  | instead (empty : Bool)
  /-- The same, and the value is kept. -/
  | assign (empty : Bool)
  /-- A complaint about a missing value. -/
  | demand (empty : Bool)
  /-- A word in the place of a value that is there. -/
  | alternate (empty : Bool)
  /-- The value without what a pattern matches at one of its ends. -/
  | cut (front longest : Bool)
  | invalid
deriving DecidableEq

/-- What a redirection does with its place. -/
inductive Turn where
  | input
  | output
  | append
  /-- As output, even to a file that is kept from being written over. -/
  | replace
  | both
  /-- The same as another place. -/
  | copy
  /-- A text that stands in the script. -/
  | document
deriving DecidableEq

mutual

/-- A piece of a word. -/
inductive Piece where
  | plain (c : Char)
  /-- A character that a backslash keeps from its meaning. -/
  | escaped (c : Char)
  /-- Text between single quotation marks. -/
  | single (s : String)
  | double (pieces : List Piece)
  | parameter (name : String) (use : Use) (word : List Piece)
  | commands (body : Option Command)
  | arithmetic (body : List Piece)

/-- A place for input or output turned to something else. -/
inductive Redirection where
  | turn (place : Nat) (kind : Turn) (word : List Piece)

/-- A command; a number says on which line it begins. -/
inductive Command where
  | simple (line : Nat) (assignments : List (String × List Piece)) (words : List (List Piece))
      (redirections : List Redirection)
  | pipeline (commands : List Command)
  | negated (c : Command)
  /-- The second only after the success of the first. -/
  | both (a b : Command)
  /-- The second only after the failure of the first. -/
  | either (a b : Command)
  | row (a b : Command)
  | background (c : Command)
  | redirected (line : Nat) (c : Command) (redirections : List Redirection)
  | subshell (line : Nat) (c : Command) (redirections : List Redirection)
  | choice (condition yes : Command) (no : Option Command)
  /-- A loop as long as its condition succeeds or, turned round, fails. -/
  | loop (turned : Bool) (condition body : Command)
  | each (line : Nat) (name : String) (words : List (List Piece)) (body : Command)
  | select (line : Nat) (word : List Piece) (cases : List (List (List Piece) × Option Command))
  | define (name : String) (body : Command)

end

def beginsName (c : Char) : Bool := c.isAlpha || c == '_'

def isNameChar (c : Char) : Bool := c.isAlphanum || c == '_'

def isName (s : String) : Bool :=
  match s.toList with
  | c :: rest => beginsName c && rest.all isNameChar
  | [] => false

/-- A parameter that is no variable and has a single sign for a name. -/
def isSpecial (c : Char) : Bool := "*@#?-$!".contains c || c.isDigit

/-- The text of a word without anything that has to be worked out; none where there is such. -/
def plainText? : List Piece → Option String
  | [] => some ""
  | .plain c :: rest => (plainText? rest).map fun s => String.singleton c ++ s
  | _ => none

/-- The word without its quotation marks, as the end of a document in a script is written. -/
def bareText : List Piece → String
  | [] => ""
  | .plain c :: rest | .escaped c :: rest => String.singleton c ++ bareText rest
  | .single s :: rest => s ++ bareText rest
  | .double ps :: rest =>
    String.join (ps.map fun p => match p with
      | .plain c | .escaped c => String.singleton c
      | _ => "") ++ bareText rest
  | _ :: rest => bareText rest

/-- Some of the word is kept from its meaning. -/
def isQuoted (word : List Piece) : Bool :=
  word.any fun p => match p with
    | .escaped _ | .single _ | .double _ => true
    | _ => false

end Converge.Shell
