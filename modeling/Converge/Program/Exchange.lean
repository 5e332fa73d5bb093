import Converge.Program.CharClass
import Converge.Program.Format
import Converge.Program.Lines

/-!
# Characters in the place of others

Sets of characters are written with ranges, classes and repetitions. The program puts the characters
of one set in the place of those of another, takes characters away, or keeps one of several that are
equal.
-/

namespace Converge.Program

open Job

inductive SetItem where
  | char (c : Char)
  | range (a b : Char)
  | named (name : String) (members : List Char)
  /-- A character that counts as equal to others. -/
  | equal (c : Char)
  /-- A character so many times, or as often as is needed. -/
  | again (c : Char) (count : Option Nat)

namespace SetItem

/-- The characters of an item, where `fill` says how often one stands that stands as often as is
needed. -/
def members (fill : Nat) : SetItem → List Char
  | char c | equal c => [c]
  | range a b => (List.range (b.toNat - a.toNat + 1)).map fun i => Char.ofNat (a.toNat + i)
  | named _ cs => cs
  | again c (some n) => List.replicate n c
  | again c none => List.replicate fill c

/-- The item is one of the two classes of letters that can be put in the place of each other. -/
def isCase : SetItem → Bool
  | named name _ => name == "lower" || name == "upper"
  | _ => false

/-- The character stands as often as is needed. -/
def fills : SetItem → Bool
  | again _ none => true
  | _ => false

/-- The character at the front of a set, an escape counting as one. -/
def takeChar (cs : List Char) : Option (Char × List Char) :=
  match cs with
  | [] => none
  | '\\' :: c :: rest =>
    match letterEscape? c with
    | some made => if c == 'e' then some (c, rest) else some (made, rest)
    | none =>
      if (Text.digitOf? 8 c).isSome then
        let (n, _, left) := takeAtMost 8 3 (c :: rest)
        if n < 256 then some (Char.ofNat n, left)
        else
          let (n, _, left) := takeAtMost 8 2 (c :: rest)
          some (Char.ofNat n, left)
      else some (c, rest)
  | c :: rest => some (c, rest)

/-- A repetition behind its bracket: a character, an asterisk and perhaps a number. -/
def takeAgain? (cs : List Char) : Option (Except String (SetItem × List Char)) :=
  match takeChar cs with
  | some (c, '*' :: rest) =>
    let digits := rest.takeWhile (· ≠ ']')
    match rest.drop digits.length with
    | ']' :: left =>
      let base := if digits.head? == some '0' then 8 else 10
      if digits.isEmpty then some (.ok (.again c none, left))
      else if digits.all fun d => (Text.digitOf? base d).isSome then
        let n := Text.ofDigits base (digits.filterMap (Text.digitOf? base))
        some (.ok (.again c (if n = 0 then none else some n), left))
      else if digits.all Char.isDigit || digits.any (fun d => d.isDigit) then
        some (.error ("invalid repeat count " ++ marked (String.ofList digits) ++ " in [c*n] construct"))
      else none
    | _ => none
  | _ => none

/-- The items that a text writes, or what is wrong with it. -/
def read : (fuel : Nat) → List Char → Except String (List SetItem)
  | 0, _ | _, [] => .ok []
  | fuel + 1, cs => do
    let plain : Except String (List SetItem) := do
      match takeChar cs with
      | none => return []
      | some (a, '-' :: rest) =>
        match takeChar rest with
        | none => return .char a :: (← read fuel ('-' :: rest))
        | some (b, rest) =>
          if b < a then
            throw ("range-endpoints of '" ++ String.ofList [a, '-', b] ++ "' are in reverse collating sequence order")
          else return .range a b :: (← read fuel rest)
      | some (a, rest) => return .char a :: (← read fuel rest)
    match cs with
    | '[' :: ':' :: rest =>
      let name := rest.takeWhile (· ≠ ':')
      match rest.drop name.length with
      | ':' :: ']' :: left =>
        match classOf? (String.ofList name) with
        | some found => return .named (String.ofList name) found :: (← read fuel left)
        | none => throw ("invalid character class " ++ marked (String.ofList name))
      | _ => plain
    | '[' :: '=' :: rest =>
      let name := rest.takeWhile (· ≠ '=')
      match name, rest.drop name.length with
      | [c], '=' :: ']' :: left => return .equal c :: (← read fuel left)
      | _ :: _ :: _, '=' :: ']' :: _ =>
        throw (String.ofList name ++ ": equivalence class operand must be a single character")
      | _, _ => plain
    | '[' :: rest =>
      match takeAgain? rest with
      | some (.ok (item, left)) => return item :: (← read fuel left)
      | some (.error words) => throw words
      | none => plain
    | _ => plain

/-- What is to be said about the writing of a set. -/
def warnings : List Char → List String
  | ['\\'] => ["warning: an unescaped backslash at end of string is not portable"]
  | '\\' :: c :: rest =>
    let (n, count, _) := takeAtMost 8 3 (c :: rest)
    let last := String.ofList ((rest.drop 1).take 1)
    if count = 3 && 256 ≤ n then
      ("warning: the ambiguous octal escape \\" ++ String.ofList ((c :: rest).take 3) ++
        " is being\n\tinterpreted as the 2-byte sequence \\0" ++ String.ofList ((c :: rest).take 2) ++ ", " ++
        last) :: warnings rest
    else warnings rest
  | _ :: rest => warnings rest
  | [] => []

/-- The places at which the classes of letters begin among the members of a set. -/
def casePlaces : (place : Nat) → List SetItem → List Nat
  | _, [] => []
  | place, item :: rest =>
    (if item.isCase then [place] else []) ++ casePlaces (place + (item.members 0).length) rest

end SetItem

/-- Characters of a set that stand behind themselves, but for one. -/
def squeezed (set : List Char) : List Char → List Char
  | a :: b :: rest =>
    if a == b && set.contains a then squeezed set (b :: rest) else a :: squeezed set (b :: rest)
  | cs => cs

/-- The characters that come in the place of others, given how the second set is written. -/
def imagesFor (turned : Bool) (first : List SetItem) (domain : List Char) (second : List SetItem) :
    Except String (List Char) := do
  let isClass (i : SetItem) : Bool := match i with
    | .named .. => !i.isCase
    | _ => false
  let isEqual (i : SetItem) : Bool := match i with
    | .equal _ => true
    | _ => false
  if 1 < (second.filter SetItem.fills).length then
    throw "only one [c*] repeat construct may appear in string2"
  if second.any isEqual then throw "[=c=] expressions may not appear in string2 when translating"
  if second.any isClass then
    throw "when translating, the only character classes that may appear in\nstring2 are 'upper' and 'lower'"
  let fixed := second.flatMap (SetItem.members 0)
  let images := second.flatMap (SetItem.members (domain.length - fixed.length))
  let isMisplaced := (SetItem.casePlaces 0 second).any fun place => !(SetItem.casePlaces 0 first).contains place
  if isMisplaced then throw "misaligned [:upper:] and/or [:lower:] construct"
  if turned && first.any isClass && 1 < images.eraseDups.length then
    throw "when translating with complemented character classes,\nstring2 must map all characters in the domain to one"
  return images

/-- The program that puts characters in the place of others, or takes them away. -/
def tr (arguments : List String) : Job Unit := do
  let (given, sets) ← options
    [.flag 'c' "complement", .flag 'C', .flag 'd' "delete", .flag 's' "squeeze-repeats",
      .flag 't' "truncate-set1"] arguments 1 false
  let deletes := isGiven given 'd'
  let squeezes := isGiven given 's'
  let least := if deletes == squeezes then 2 else 1
  let most := if deletes && !squeezes then 1 else 2
  if sets.isEmpty then misuse "missing operand"
  if sets.length < least then
    complain ("missing operand after " ++ marked (sets.getLastD ""))
    sayError (if squeezes then "Two strings must be given when both deleting and squeezing repeats.\n"
      else "Two strings must be given when translating.\n")
    hint
    throw 1
  if most < sets.length then
    complain ("extra operand " ++ marked ((sets.drop most).headD ""))
    if sets.length = 2 then
      sayError "Only one string may be given when deleting without squeezing repeats.\n"
    hint
    throw 1
  let read (word : String) : Job (List SetItem) := do
    for words in SetItem.warnings word.toList do
      complain words
    match SetItem.read (word.length + 1) word.toList with
    | .ok set => return set
    | .error words => refuse words
  let firstItems ← read (sets.headD "")
  let secondItems ← read ((sets.drop 1).headD "")
  if firstItems.any SetItem.fills then
    refuse "the [c*] repeat construct may not appear in string1"
  let turned := isGiven given 'c' || isGiven given 'C'
  let listed := firstItems.flatMap (SetItem.members 0)
  let first := if turned then ((List.range 256).map Char.ofNat).filter fun c => !listed.contains c else listed
  let cs := (← takeInput).toList
  let translates := !deletes && sets.length = 2
  let second ← if !translates then pure (secondItems.flatMap (SetItem.members 0)) else
    match imagesFor turned firstItems first secondItems with
    | .ok images => pure images
    | .error words => refuse words
  if translates && second.isEmpty && !first.isEmpty && !isGiven given 't' then
    refuse "when not truncating set1, string2 must be non-empty"
  let first := if translates && isGiven given 't' then first.take second.length else first
  let image (c : Char) : Char :=
    match first.reverse.idxOf? c with
    | none => c
    | some i =>
      let place := first.length - 1 - i
      second.getD place (second.getLastD c)
  let cs := if deletes then cs.filter fun c => !first.contains c else cs
  let cs := if translates then cs.map image else cs
  let cs := if squeezes then squeezed (if sets.length = 2 then second else first) cs else cs
  say (String.ofList cs)

end Converge.Program
