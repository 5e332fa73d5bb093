/-!
# Lines

Text that is read has a line feed for each of its line ends, whichever way they were written.
Output is cut into lines at every character that ends a line in some script or protocol.
-/

namespace Converge.Text

/-- A carriage return, alone or before a line feed, becomes a line feed. -/
def unifyChars : List Char → List Char
  | '\r' :: '\n' :: rest => '\n' :: unifyChars rest
  | '\r' :: rest => '\n' :: unifyChars rest
  | c :: rest => c :: unifyChars rest
  | [] => []

/-- The text with a line feed for each line end. -/
def unifyNewlines (s : String) : String :=
  String.ofList (unifyChars s.toList)

def isLineEnd (c : Char) : Bool :=
  let n := c.toNat
  (10 ≤ n && n ≤ 13) || (28 ≤ n && n ≤ 30) || n == 133 || n == 8232 || n == 8233

/-- The lines of what is left, after the characters of the current line in reverse. -/
def linesFrom (current : List Char) : List Char → List (List Char)
  | [] => if current.isEmpty then [] else [current.reverse]
  | '\r' :: '\n' :: rest => current.reverse :: linesFrom [] rest
  | c :: rest => if isLineEnd c then current.reverse :: linesFrom [] rest else linesFrom (c :: current) rest

/-- The lines of a text without their ends; a line end at the end of the text opens no line. -/
def splitLines (s : String) : List String :=
  (linesFrom [] s.toList).map String.ofList

end Converge.Text
