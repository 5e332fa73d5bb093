import Converge.Shell.Builtin.Basic

/-!
# Lines read into variables

A line of the input is divided at separators; the last variable gets all that is left.
-/

namespace Converge.Shell.Builtin

open Act

/-- A line of the input up to its line feed, a backslash keeping the character behind it; what is left,
and whether a line feed was found. -/
def takeLine (raw : Bool) : (fuel : Nat) → List Char → List Atom × List Char × Bool
  | 0, s => ([], s, false)
  | _, [] => ([], [], false)
  | n + 1, c :: rest =>
    let go (a : List Atom) (rest : List Char) : List Atom × List Char × Bool :=
      let (more, left, found) := takeLine raw n rest
      (a ++ more, left, found)
    if c == '\n' then ([], rest, true)
    else if c == '\\' && !raw then
      match rest with
      | '\n' :: rest => go [] rest
      | d :: rest => go [.char d true false] rest
      | [] => ([], [], false)
    else go [.char c false true] rest

/-- The text of atoms without separators that are blanks at both ends. -/
def trimmed (ifs : List Char) (atoms : List Atom) : List Atom :=
  let isBlank (a : Atom) : Bool := match a with
    | .char c false _ => ifs.contains c && (c == ' ' || c == '\t' || c == '\n')
    | _ => false
  ((atoms.dropWhile isBlank).reverse.dropWhile isBlank).reverse

/-- The first fields of a line for all names but the last, which gets the rest. -/
def fieldsFor (ifs : List Char) : (names : Nat) → List Atom → List String
  | 0, _ => []
  | 1, atoms =>
    let rest := trimmed ifs atoms
    match fieldsOf ifs rest with
    | [only] => [Atom.text only]
    | _ => [Atom.text rest]
  | n + 1, atoms =>
    let atoms := trimmed ifs atoms
    let isMark (a : Atom) : Bool := match a with
      | .char c false _ => ifs.contains c
      | _ => false
    let isBlank (a : Atom) : Bool := match a with
      | .char c false _ => ifs.contains c && (c == ' ' || c == '\t' || c == '\n')
      | _ => false
    let first := atoms.takeWhile fun a => !isMark a
    let behind := (atoms.drop first.length).dropWhile isBlank
    let behind := match behind with
      | a :: rest =>
        if isMark a then (if (atoms.drop first.length).isEmpty then behind else rest.dropWhile isBlank) else behind
      | [] => []
    Atom.text first :: fieldsFor ifs n behind

def read (words : List String) : Act Unit := do
  let (given, names) ← options "p:r" words
  let raw := given.contains 'r'
  if names.isEmpty then fail "arg count"
  for name in names do
    if !isName name then fail (name ++ ": bad variable name")
  let s ← get
  let source := (s.places.lookup 0).getD 0
  let text := (s.system.readable source).toList
  let (atoms, left, found) := takeLine raw (text.length + 1) text
  set { s with system := s.system.leave source left.length }
  let ifs ← separators
  for (name, value) in names.zip (fieldsFor ifs.toList names.length atoms) do
    assign name value
  settle (if found then 0 else 1)

end Converge.Shell.Builtin
