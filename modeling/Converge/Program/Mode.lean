import Converge.Text.Digit

/-!
# Modes

Permission bits are given by their number in base eight, or by clauses: for whom, whether bits are
added, taken away or set, and which.
-/

namespace Converge.Program.Mode

/-- The bits of the owner, the group and the others, with the special bit of each. -/
def bitsOf (who : Char) : Nat :=
  match who with
  | 'u' => 0o4700
  | 'g' => 0o2070
  | 'o' => 0o1007
  | _ => 0o7777

/-- The bits of all for which a clause holds. -/
def scope (who : List Char) : Nat :=
  who.foldl (fun bits c => bits ||| bitsOf c) 0

def without (bits taken : Nat) : Nat := bits - (bits &&& taken)

/-- The bits that letters ask for, before they are confined to a scope. -/
def letterBits (mode : Nat) (directory : Bool) (letters : List Char) : Nat :=
  letters.foldl (fun bits c => bits ||| (match c with
    | 'r' => 0o444
    | 'w' => 0o222
    | 'x' => 0o111
    | 'X' => if directory || mode &&& 0o111 ≠ 0 then 0o111 else 0
    | 's' => 0o6000
    | 't' => 0o1000
    | 'u' => ((mode >>> 6) &&& 7) * 0o111
    | 'g' => ((mode >>> 3) &&& 7) * 0o111
    | 'o' => (mode &&& 7) * 0o111
    | _ => 0)) 0

/-- The actions of a clause carried out one after the other; none where one cannot be read. -/
def actions? (mask : Nat) (who : List Char) (directory : Bool) : (fuel : Nat) → List Char → Nat → Option Nat
  | 0, _, _ => none
  | _, [], mode => some mode
  | fuel + 1, sign :: rest, mode =>
    if !"+-=".contains sign then none
    else
      let letters := rest.takeWhile fun c => !"+-=".contains c
      let rest := rest.dropWhile fun c => !"+-=".contains c
      let copies := letters.any fun c => "ugo".contains c
      if !(letters.all fun c => "rwxXst".contains c) && !(copies && letters.length = 1) then none
      else
        let within := if who.isEmpty then without 0o7777 mask else scope who
        let bits := letterBits mode directory letters &&& within
        let kept := if directory then mode &&& 0o6000 else 0
        let whole := if who.isEmpty then 0o7777 else scope who
        actions? mask who directory fuel rest (match sign with
          | '+' => mode ||| bits
          | '-' => without mode bits
          | _ => without mode whole ||| bits ||| (kept &&& whole))

/-- The texts between commas. -/
def clauses (s : List Char) : List (List Char) :=
  s.foldr (fun c parts => match parts with
    | part :: rest => if c == ',' then [] :: part :: rest else (c :: part) :: rest
    | [] => [[c]]) [[]]

/-- The mode that a word makes of another; none where the word is no mode. The bits of the mask are
left alone by clauses that do not say for whom they are. -/
def changed? (mask : Nat) (word : String) (directory : Bool) (mode : Nat) : Option Nat :=
  let cs := word.toList
  if !cs.isEmpty && cs.all fun c => (Text.digitOf? 8 c).isSome then
    let n := Text.ofDigits 8 (cs.filterMap (Text.digitOf? 8))
    if 0o7777 < n then none
    else some (if directory && cs.length < 5 then n ||| (mode &&& 0o6000) else n)
  else
    (clauses cs).foldlM (fun mode clause =>
      let who := clause.takeWhile fun c => "ugoa".contains c
      match clause.dropWhile fun c => "ugoa".contains c with
      | [] => none
      | rest => actions? mask who directory (rest.length + 1) rest mode) mode

def letters (mode : Nat) : String :=
  let triple (bits : Nat) (special : Bool) (mark markOnly : Char) : List Char :=
    [if bits &&& 4 ≠ 0 then 'r' else '-', if bits &&& 2 ≠ 0 then 'w' else '-',
      if bits &&& 1 ≠ 0 then (if special then mark else 'x') else if special then markOnly else '-']
  String.ofList (triple (mode >>> 6) (mode &&& 0o4000 ≠ 0) 's' 'S' ++
    triple (mode >>> 3) (mode &&& 0o2000 ≠ 0) 's' 'S' ++ triple mode (mode &&& 0o1000 ≠ 0) 't' 'T')

end Converge.Program.Mode
