import Converge.Program.Lines
import Converge.Program.Layout

/-!
# Programs about words

Programs that work on their arguments alone: parts of paths, times to wait and lines without end.
-/

namespace Converge.Program

open Job

/-! ## Parts of paths -/

/-- The last part of a path as it is told, without a suffix. -/
def baseName (path ending : String) : String :=
  let bare := Path.withoutEndSlashes path
  let name := if bare == "/" then "/" else (((between '/' bare.toList).getLast?).map String.ofList).getD ""
  if ending != "" && name.endsWith ending && name != ending then
    String.ofList (name.toList.take (name.length - ending.length))
  else name

/-- The program that tells the last part of a path. -/
def basename (arguments : List String) : Job Unit := do
  let (given, words) ← options
    [.flag 'a' "multiple", .value 's' "suffix", .flag 'z' "zero"] arguments 1 false
  let finish := if isGiven given 'z' then "\x00" else "\n"
  let many := isGiven given 'a' || isGiven given 's'
  match words with
  | [] => misuse "missing operand"
  | path :: rest =>
    if many then
      for path in words do
        say (baseName path ((valueOf given 's').getD "") ++ finish)
    else
      match rest with
      | _ :: extra :: _ => misuse ("extra operand " ++ marked extra)
      | rest => say (baseName path (rest.headD "") ++ finish)

/-- What stands in front of the last part of a path. -/
def directoryName (path : String) : String :=
  let cs := (Path.withoutEndSlashes path).toList
  let front := (cs.reverse.dropWhile (· ≠ '/')).dropWhile (· == '/')
  if cs == ['/'] then "/"
  else if front.isEmpty then (if cs.contains '/' then "/" else ".")
  else String.ofList front.reverse

/-- The program that tells what stands in front of the last part of a path. -/
def dirname (arguments : List String) : Job Unit := do
  let (given, words) ← options [.flag 'z' "zero"] arguments
  if words.isEmpty then misuse "missing operand"
  for path in words do
    say (directoryName path ++ if isGiven given 'z' then "\x00" else "\n")

/-! ## Waiting and endless output -/

/-- The longest time, in thousandths of a second. -/
def maxTime : Nat := 1000000000000000000

/-- The time that a word writes, in thousandths of a second. -/
def timeOf? (word : String) : Option Nat :=
  let (value, rest) := Real.take? 64 word.toList
  let seconds : Option Nat := match String.ofList rest with
    | "" | "s" => some 1
    | "m" => some 60
    | "h" => some 3600
    | "d" => some 86400
    | _ => none
  match value, seconds with
  | some (.finite negative num den), some n =>
    if negative && num ≠ 0 then none else some (min maxTime ((num * n * 1000 + den - 1) / den))
  | some (.infinite false), some _ => some maxTime
  | _, _ => none

/-- The program that waits. -/
def sleep (arguments : List String) : Job Unit := do
  let (_, words) ← options [] arguments
  if words.isEmpty then misuse "missing operand"
  let wrong := words.filter fun w => (timeOf? w).isNone
  for word in wrong do
    fault ("invalid time interval " ++ marked word)
  if !wrong.isEmpty then
    hint
    throw 1
  for time in words.filterMap timeOf? do
    idle time

/-- As many lines as any reader of endless output takes. -/
def endless : Nat := 20000

/-- The program that prints a line without end. -/
def yes (arguments : List String) : Job Unit := do
  let line := (if arguments.isEmpty then "y" else " ".intercalate arguments) ++ "\n"
  say (String.join (List.replicate endless line))

end Converge.Program
