import Converge.Program.Sorted

/-!
# Lines that are repeated

The program that finds lines which stand more than once behind each other. Two lines are the same
when what is looked at of them is.
-/

namespace Converge.Program

open Job

/-- Lines in groups of those that are the same and stand behind each other. -/
def groupsOf {α : Type} (same : α → α → Bool) : List α → List (List α)
  | [] => []
  | line :: rest =>
    match groupsOf same rest with
    | (other :: more) :: groups =>
      if same line other then (line :: other :: more) :: groups else [line] :: (other :: more) :: groups
    | groups => [line] :: groups

/-- What is looked at of lines. -/
structure Looking where
  fields : Nat
  chars : Nat
  most : Option Nat
  anyCase : Bool

def Looking.view (l : Looking) (line : List Char) : List Char :=
  let behind := (behindFields none true l.fields line).drop l.chars
  let seen := match l.most with
    | some n => behind.take n
    | none => behind
  if l.anyCase then seen.map Char.toLower else seen

/-- The program that prints one of lines that are the same. -/
def uniq (arguments : List String) : Job Unit := do
  let (given, paths) ← options
    [.flag 'c' "count", .flag 'd' "repeated", .flag 'u' "unique", .flag 'i' "ignore-case",
      .value 'f' "skip-fields", .value 's' "skip-chars", .value 'w' "check-chars", .flag 'D',
      .onlyLong 'D' "all-repeated" .optional, .flag 'z' "zero-terminated"] arguments
  let number (key : Char) (words : String) : Job (Option Nat) := do
    match valueOf given key with
    | none => return none
    | some word =>
      match word.toNat? with
      | some n => return some n
      | none => refuse (word ++ ": invalid number of " ++ words)
  let fields ← number 'f' "fields to skip"
  let chars ← number 's' "bytes to skip"
  let most ← number 'w' "bytes to compare"
  if let some extra := (paths.drop 2).head? then misuse ("extra operand " ++ marked extra)
  let l : Looking := ⟨fields.getD 0, chars.getD 0, most, isGiven given 'i'⟩
  if isGiven given 'c' && isGiven given 'D' then
    misuse "printing all duplicated lines and repeat counts is meaningless"
  let input := paths.headD "-"
  let mark := if isGiven given 'z' then '\x00' else '\n'
  match ← source input with
  | .error .isDirectory => refuse ("error reading " ++ quotedName input ++ ": " ++ Errno.isDirectory.text)
  | .error errno => refuse (headName input ++ ": " ++ errno.text)
  | .ok text =>
    let groups := groupsOf (fun a b => l.view a == l.view b) (endedParts mark text)
    let repeats := isGiven given 'd' || isGiven given 'D'
    let found := groups.filter fun g =>
      (!repeats || 1 < g.length) && (!isGiven given 'u' || g.length = 1)
    let shown := (found.flatMap fun g => if isGiven given 'D' then g else g.take 1).zip
      (found.map List.length ++ List.replicate text.length 1)
    let line (p : List Char × Nat) : String :=
      (if isGiven given 'c' then padLeft 7 (toString p.2) ++ " " else "") ++ String.ofList (p.1 ++ [mark])
    let printed := String.join (shown.map line)
    match paths.drop 1 with
    | [] | "-" :: _ => say printed
    | target :: _ => match ← store target printed with
      | .ok () => return ()
      | .error errno => refuse (headName target ++ ": " ++ errno.text)

end Converge.Program
