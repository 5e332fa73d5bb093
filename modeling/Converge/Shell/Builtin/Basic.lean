import Converge.Shell.Start

/-!
# Words of programs inside of a shell

What the programs that a shell carries out itself have in common: options in front of their words,
numbers among them, and what they print.
-/

namespace Converge.Shell.Builtin

open Act

def number (word : String) : Act Nat :=
  if word != "" && word.all Char.isDigit then return (word.toNat?).getD 0
  else fail ("Illegal number: " ++ word)

/-- The options of one word and those behind it: each letter is one of those that are taken, and a
colon behind it there says that it has an argument. -/
def optionsOf (taken : String) :
    (fuel : Nat) → (letters : List Char) → List String → Act (List (Char × String) × List String)
  | 0, _, words => return ([], words)
  | n + 1, c :: cs, words => do
    match taken.toList.dropWhile (· ≠ c), c == ':' with
    | _ :: ':' :: _, false =>
      match cs, words with
      | [], [] => fail ("No arg for -" ++ String.singleton c ++ " option")
      | [], value :: rest =>
        let (more, left) ← optionsOf taken n [] rest
        return ((c, value) :: more, left)
      | cs, words =>
        let (more, left) ← optionsOf taken n [] words
        return ((c, String.ofList cs) :: more, left)
    | _ :: _, false =>
      let (more, left) ← optionsOf taken n cs words
      return ((c, "") :: more, left)
    | _, _ => fail ("Illegal option -" ++ String.singleton c)
  | n + 1, [], words =>
    match words with
    | "--" :: rest => return ([], rest)
    | word :: rest =>
      match word.toList with
      | '-' :: c :: cs => optionsOf taken n (c :: cs) rest
      | _ => return ([], words)
    | [] => return ([], [])

/-- The options in front of words with their arguments, and the other words. -/
def optionsWith (taken : String) (words : List String) : Act (List (Char × String) × List String) :=
  optionsOf taken ((" ".intercalate words).length + words.length + 1) [] words

/-- The letters of the options in front of words, and the other words. -/
def options (taken : String) (words : List String) : Act (List Char × List String) := do
  let (given, rest) ← optionsWith taken words
  return (given.map (·.1), rest)

/-- A text on the usual output. -/
def say (s : String) : Act Unit := write 1 s

/-- A text between single quotation marks. -/
def quoted (s : String) : String := "'" ++ "'\\''".intercalate (s.splitOn "'") ++ "'"

end Converge.Shell.Builtin
