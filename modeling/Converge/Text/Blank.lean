/-!
# Blank characters and stripping

White space of every script, the four separators U+001C to U+001F and the next-line control
included. Both ends of a text are stripped of it.
-/

namespace Converge.Text

/-- White space of any script. -/
def isBlank (c : Char) : Bool :=
  let n := c.toNat
  (9 ≤ n && n ≤ 13) || (28 ≤ n && n ≤ 32) || n == 133 || n == 160 || n == 5760 ||
    (8192 ≤ n && n ≤ 8202) || n == 8232 || n == 8233 || n == 8239 || n == 8287 || n == 12288

/-- What is left when the characters of a class are taken from the end. -/
def dropRight (p : Char → Bool) (s : List Char) : List Char :=
  (s.reverse.dropWhile p).reverse

/-- The characters without the blanks at either end. -/
def stripChars (s : List Char) : List Char :=
  dropRight isBlank (s.dropWhile isBlank)

/-- The text without the blanks at either end. -/
def strip (s : String) : String :=
  String.ofList (stripChars s.toList)

/-- The text without the line feeds at its end. -/
def stripLineFeeds (s : String) : String :=
  String.ofList (dropRight (· == '\n') s.toList)

end Converge.Text
