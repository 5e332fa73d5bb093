import Converge.Program.Format
import Converge.Program.Lines
import Converge.Program.Sorted

/-!
# Parts of lines

Programs that print parts of lines, and that join or break lines.
-/

namespace Converge.Program

open Job

/-! ## Columns -/

/-- A range of places, the first being 1; without an end it goes on. -/
structure Span where
  first : Nat
  last : Option Nat

/-- A place is in a range. -/
def Span.contains (s : Span) (n : Nat) : Bool :=
  s.first ≤ n && (match s.last with
    | some last => n ≤ last
    | none => true)

/-- The ranges of a list, or what is wrong with it; `unit` names the places. -/
def spansOf (fields : Bool) (word : String) : Except String (List Span) :=
  let numbered :=
    if fields then "fields are numbered from 1" else "byte/character positions are numbered from 1"
  let invalid :=
    if fields then "invalid field value " ++ marked word
    else "invalid byte/character position " ++ marked word
  (between ',' word.toList).mapM fun part =>
    let (first, rest) := takePlainDigits 10 part
    let n := Text.ofDigits 10 first
    match rest with
    | [] =>
      if first.isEmpty || n = 0 then .error numbered else .ok ⟨n, some n⟩
    | '-' :: rest =>
      let (last, rest) := takePlainDigits 10 rest
      let m := Text.ofDigits 10 last
      if !rest.isEmpty then .error invalid
      else if first.isEmpty && last.isEmpty then .error "invalid range with no endpoint: -"
      else if !first.isEmpty && n = 0 then .error numbered
      else if !last.isEmpty && m < max n 1 then .error "invalid decreasing range"
      else .ok ⟨max n 1, if last.isEmpty then none else some m⟩
    | _ => .error invalid

def kept {α : Type} (spans : List Span) (others : Bool) (units : List α) : List α :=
  (units.zipIdx.filter fun u => (spans.any fun s => s.contains (u.2 + 1)) != others).map (·.1)

/-- The units whose places are in ranges, those of ranges that touch each other together. -/
def runsOf (spans : List Span) (cs : List Char) : List (List Char) :=
  let sorted := spans.mergeSort fun a b => a.first ≤ b.first
  let joined := sorted.foldl (fun (done : List Span) s => match done with
    | t :: rest => match t.last with
      | none => done
      | some last =>
        if s.first ≤ last then ⟨t.first, s.last.map (max last)⟩ :: rest else s :: done
    | [] => [s]) []
  (joined.reverse.map fun s => kept [s] false cs).filter fun run => !run.isEmpty

/-- The program that prints columns of lines. -/
def cut (arguments : List String) : Job Unit := do
  let (given, paths) ← options
    [.value 'b' "bytes", .value 'c' "characters", .value 'd' "delimiter", .value 'f' "fields",
      .flag 's' "only-delimited", .flag 'n', .onlyLong 'C' "complement", .onlyLong 'o' "output-delimiter" .required,
      .flag 'z' "zero-terminated"]
    arguments
  let delimiter := (valueOf given 'd').getD "\t"
  let lists := given.filter fun g => "bcf".contains g.key
  match lists with
  | [] => misuse "you must specify a list of bytes, characters, or fields"
  | _ :: _ :: _ => misuse "only one list may be specified"
  | [list] =>
    let fields := list.key == 'f'
    if !fields && (valueOf given 'd').isSome then
      misuse "an input delimiter may be specified only when operating on fields"
    if !fields && isGiven given 's' then
      misuse "suppressing non-delimited lines makes sense\n\tonly when operating on fields"
    if 1 < delimiter.length then misuse "the delimiter must be a single character"
    match spansOf fields (list.value.getD "") with
    | .error words => misuse words
    | .ok spans =>
      let others := isGiven given 'C'
      let mark := delimiter.toList.headD '\x00'
      let ending := if isGiven given 'z' then '\x00' else '\n'
      let tell (s : String) : Job Unit := say (s.push ending)
      for path in inputsOf paths do
        if let some text ← inputOrFault path then
          for cs in endedParts ending text do
            if fields then
              if !cs.contains mark then
                if !isGiven given 's' then tell (String.ofList cs)
              else
                let joint := (valueOf given 'o').getD (String.singleton mark)
                tell (joint.intercalate ((kept spans others (between mark cs)).map String.ofList))
            else
              match valueOf given 'o' with
              | none => tell (String.ofList (kept spans others cs))
              | some joint =>
                let runs := if others then [cs] else runsOf spans cs
                tell (joint.intercalate (runs.map String.ofList))

/-! ## Lines joined and broken -/

/-- The texts of a list of delimiters, with escapes. -/
def delimitersOf : (fuel : Nat) → List Char → List String
  | 0, _ => []
  | _, [] => []
  | fuel + 1, '\\' :: '0' :: rest => "" :: delimitersOf fuel rest
  | fuel + 1, '\\' :: c :: rest =>
    String.singleton (match letterEscape? c with
      | some made => if c == 'e' || c == 'a' then c else made
      | none => c) :: delimitersOf fuel rest
  | fuel + 1, c :: rest => String.singleton c :: delimitersOf fuel rest

/-- Texts with delimiters between them, which are taken one after the other and again. -/
def joinedBy (marks : List String) : (place : Nat) → List String → String
  | _, [] => ""
  | _, [last] => last
  | place, text :: rest =>
    text ++ marks.getD (place % max marks.length 1) "" ++ joinedBy marks (place + 1) rest

/-- The first line of each input that has one left, and the inputs without them; a shared input
gives its lines to those that ask for them one after the other. -/
def takeRow : List (Option (List String)) → (shared : List String) →
    List (Option String) × List (Option (List String)) × List String
  | [], shared => ([], [], shared)
  | none :: rest, shared =>
    let (row, rest, left) := takeRow rest (shared.drop 1)
    (shared.head? :: row, none :: rest, left)
  | some lines :: rest, shared =>
    let (row, rest, left) := takeRow rest shared
    (lines.head? :: row, some (lines.drop 1) :: rest, left)

/-- The lines of several inputs beside each other, as long as one has any. -/
def beside (marks : List String) : (fuel : Nat) → List (Option (List String)) → List String → List String
  | 0, _, _ => []
  | fuel + 1, inputs, shared =>
    match takeRow inputs shared with
    | (row, inputs, shared) =>
      if row.all Option.isNone then []
      else joinedBy marks 0 (row.map fun line => line.getD "") :: beside marks fuel inputs shared

/-- The program that joins lines. -/
def paste (arguments : List String) : Job Unit := do
  let (given, paths) ← options
    [.value 'd' "delimiters", .flag 's' "serial", .flag 'z' "zero-terminated"] arguments
  let list := ((valueOf given 'd').getD "\t").toList
  let marks := if list.isEmpty then [""] else delimitersOf list.length list
  let ending := if isGiven given 'z' then '\x00' else '\n'
  let parts (text : String) := (endedParts ending text).map String.ofList
  let tell (s : String) : Job Unit := say (s.push ending)
  let paths := inputsOf paths
  if isGiven given 's' then
    for path in paths do
      if let some text ← inputOrFault path then tell (joinedBy marks 0 (parts text))
  else
    let shared ← if paths.contains "-" then do pure (parts (← takeInput)) else pure []
    let mut inputs : List (Option (List String)) := []
    for path in paths do
      if path == "-" then inputs := inputs ++ [none]
      else match ← source path with
        | .ok text => inputs := inputs ++ [some (parts text)]
        | .error errno => refuse (headName path ++ ": " ++ errno.text)
    let most := (inputs.map fun i => (i.getD []).length).foldl max shared.length
    for line in beside marks (most + 1) inputs shared do
      tell line

def columnAfter (bytes : Bool) (column : Nat) (c : Char) : Nat :=
  if bytes then column + 1
  else match c with
    | '\x08' => column - 1
    | '\r' => 0
    | '\t' => column + (8 - column % 8)
    | _ => column + 1

/-- How lines are broken. -/
structure Breaking where
  width : Nat
  bytes : Bool
  /-- A line is broken behind a blank where it has one. -/
  atBlanks : Bool

/-- A line broken; what is written of its last part is in reverse. -/
def Breaking.lines (b : Breaking) : (fuel : Nat) → (column : Nat) → (part : List Char) → List Char →
    List (List Char)
  | 0, _, part, rest => [part.reverse ++ rest]
  | _, _, part, [] => [part.reverse]
  | fuel + 1, column, part, c :: rest =>
    let next := columnAfter b.bytes column c
    if next ≤ b.width then b.lines fuel next (c :: part) rest
    else
      let isBlank (c : Char) : Bool := c == ' ' || c == '\t'
      let behind := part.takeWhile fun c => !isBlank c
      if b.atBlanks && behind.length < part.length then
        let column := behind.reverse.foldl (columnAfter b.bytes) 0
        (part.drop behind.length).reverse :: b.lines fuel column behind (c :: rest)
      else if part.isEmpty then b.lines fuel next [c] rest
      else part.reverse :: b.lines fuel 0 [] (c :: rest)

/-- The program that breaks lines at a width. -/
def fold (arguments : List String) : Job Unit := do
  let (given, paths) ← options
    ([.value 'w' "width", .flag 'b' "bytes", .flag 's' "spaces"]) (arguments.map fun a =>
      match a.toList with
      | '-' :: c :: cs => if c.isDigit then "-w" ++ String.ofList (c :: cs) else a
      | _ => a)
  let width ← match valueOf given 'w' with
    | none => pure 80
    | some word => match takePlainDigits 10 word.toList with
      | ([], _) | (_, _ :: _) => refuse ("invalid number of columns: " ++ marked word)
      | (ds, []) =>
        let n := Text.ofDigits 10 ds
        if n = 0 then
          refuse ("invalid number of columns: " ++ marked word ++ ": Numerical result out of range")
        else pure n
  let b : Breaking := ⟨width, isGiven given 'b', isGiven given 's'⟩
  for line in linesOf (← allInputs paths) do
    let cs := (chomped line).toList
    let broken := (b.lines (3 * cs.length + 2) 0 [] cs).map String.ofList
    say ("\n".intercalate broken ++ if line.endsWith "\n" then "\n" else "")

end Converge.Program
