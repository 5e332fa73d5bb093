import Converge.Shell.Process

/-!
# Programs that start others

What the programs have in common that start another: their options, their complaints, and how the
end of the other becomes theirs.
-/

namespace Converge.Shell

open Act

/-- How a program starts another in an environment. -/
abbrev Starter := List (String × String) → List String → Act Finish

/-- What a program does that starts others; it may end early. -/
abbrev Starting := ExceptT Finish Act

/-- A program that is started under a name, with its arguments and its environment. -/
structure Begun where
  name : String
  arguments : List String
  environment : List (String × String)

/-- The program carried out, up to its end. -/
def Starting.finish (a : Starting Finish) : Act Finish := do
  match ← ExceptT.run a with
  | .ok finish | .error finish => return finish

namespace Begun

def leave {α : Type} (status : Nat) : Starting α := throwThe Finish (.exited status)

def complain (b : Begun) (words : String) : Act Unit := write 2 (b.name ++ ": " ++ words ++ "\n")

def hint (b : Begun) : Act Unit := write 2 ("Try '" ++ b.name ++ " --help' for more information.\n")

/-- A complaint with which the program ends. -/
def refuse {α : Type} (b : Begun) (words : String) (status : Nat) : Starting α := do
  b.complain words
  leave status

/-- A complaint about how the program was started. -/
def misuse {α : Type} (b : Begun) (words : String) (status : Nat) : Starting α := do
  b.complain words
  b.hint
  leave status

/-- The options in front of the program's arguments, and the words behind them. -/
def options (b : Begun) (forms : List Program.OptionForm) (status : Nat) :
    Starting (List Program.Given × List String) :=
  match Program.optionsOf forms false (b.arguments.length + 1) b.arguments with
  | .ok found => return found
  | .error fault => b.misuse fault.message status

/-- The status of a program that cannot be started. -/
def missing (errno : Errno) : Nat := if errno = .noEntry then 127 else 126

/-- Another program started; where it cannot be, it is shown in a complaint. -/
def launch (b : Begun) (other : Starter) (shown : String → String) (environment : List (String × String))
    (words : List String) : Starting Finish := do
  match ← other environment words with
  | .refused errno => b.refuse (shown (words.headD "") ++ ": " ++ errno.text) (missing errno)
  | finish => return finish

/-- What is done in a state that is changed for it, and changed back behind it. -/
def within {α : Type} (change : State → State) (back : (before after : State) → State) (a : Starting α) :
    Starting α := do
  let before ← getThe State
  modifyThe State change
  let result ← (attempt (ExceptT.run a) : Act (Except Leave (Except Finish α)))
  modifyThe State (back before)
  match result with
  | .ok (.ok x) => return x
  | .ok (.error finish) => throwThe Finish finish
  | .error leave => (throw leave : Act α)

/-- The path along which the program looks for others. -/
def searchPath (environment : List (String × String)) : String :=
  (environment.lookup "PATH").getD "/bin:/usr/bin"

/-! ## Programs that go on, and their rank -/

/-- The program that starts another that goes on behind it. -/
def nohup (b : Begun) (other : Starter) : Starting Finish := do
  let (_, words) ← b.options [] 125
  if words.isEmpty then b.misuse "missing operand" 125
  b.launch other (fun word => "failed to run command " ++ Program.quotedName word) b.environment words

/-- A word that gives a rank in the old way: a dash, perhaps a sign, and digits. -/
def oldRank? (word : String) : Option String :=
  match word.toList with
  | '-' :: c :: cs =>
    if c.isDigit || ((c == '-' || c == '+') && cs.head?.any Char.isDigit) then some (String.ofList (c :: cs))
    else none
  | _ => none

/-- The ranks that the options of the program give, and the words behind them. -/
def ranks (b : Begun) : (fuel : Nat) → List String → Starting (List String × List String)
  | 0, words => return ([], words)
  | n + 1, words =>
    match words with
    | [] => return ([], [])
    | word :: rest =>
      match oldRank? word with
      | some rank => do
        let (more, words) ← ranks b n rest
        return (rank :: more, words)
      | none => do
        if !word.startsWith "-" || word == "-" then return ([], words)
        else if word == "--" then return ([], rest)
        else
          let taken := if word.startsWith "--" then
              match Program.longOption [.value 'n' "adjustment"] (String.ofList (word.toList.drop 2)) rest with
              | .ok (g, rest) => .ok ([g], rest)
              | .error fault => .error fault
            else Program.shortOptions [.value 'n'] rest (word.toList.drop 1)
          match taken with
          | .error fault => b.misuse fault.message 125
          | .ok (given, rest) =>
            let (more, words) ← ranks b n rest
            return (given.filterMap (·.value) ++ more, words)

/-- The program that starts another with a lower rank, or tells the rank. -/
def nice (b : Begun) (other : Starter) : Starting Finish := do
  let (given, words) ← ranks b (b.arguments.length + 1) b.arguments
  let adjustment : Option Int ← match given.getLast? with
    | none => pure none
    | some word =>
      match Program.takeWhole word.toList with
      | (some i, []) => pure (some i)
      | _ => b.refuse ("invalid adjustment " ++ Program.marked word) 125
  let rank := (← getThe State).rank
  if words.isEmpty then
    if adjustment.isSome then b.misuse "a command must be given with an adjustment" 125
    write 1 (toString rank ++ "\n")
    return .exited 0
  else
    let next := max (-20) (min 19 (rank + adjustment.getD 10))
    within (fun s => { s with rank := next }) (fun before s => { s with rank := before.rank })
      (b.launch other Program.marked b.environment words)

/-! ## Limits of time -/

/-- The number of a signal's word, which may have letters in front. -/
def signal? (word : String) : Option Nat :=
  let bare := if word.toUpper.startsWith "SIG" then String.ofList (word.toList.drop 3) else word
  if bare.toUpper == "EXIT" then some 0 else Signal.number? bare

/-- The program that limits the time of another. -/
def timeout (b : Begun) (other : Starter) : Starting Finish := do
  let (given, words) ← b.options
    [.value 'k' "kill-after", .value 's' "signal", .flag 'v' "verbose", .flag 'f' "foreground",
      .flag 'p' "preserve-status"] 125
  let time (word : String) : Starting Nat :=
    match Program.timeOf? word with
    | some t => return t
    | none => b.misuse ("invalid time interval " ++ Program.marked word) 125
  if let some word := Program.valueOf given 'k' then
    let _ ← time word
  let signal ← match Program.valueOf given 's' with
    | none => pure 15
    | some word => match signal? word with
      | some n => pure n
      | none => b.misuse (Program.marked word ++ ": invalid signal") 125
  match words with
  | limit :: word :: rest =>
    let limit ← time limit
    let s ← getThe State
    let ends := s.system.clock + limit
    let isOurs := limit ≠ 0 && s.system.deadline.all fun d => ends < d
    let system := if isOurs then { s.system with deadline := some ends } else s.system
    set { s with system }
    let a : Starting Finish :=
      b.launch other (fun word => "failed to run command " ++ Program.marked word) b.environment (word :: rest)
    let result ← (attempt (ExceptT.run a) : Act (Except Leave (Except Finish Finish)))
    let after ← getThe State
    set { s with system := { after.system with deadline := s.system.deadline } }
    match result, isOurs with
    | .error .expired, true =>
      if Program.isGiven given 'v' then
        b.complain ("sending signal " ++ (Signal.name? signal).getD "" ++ " to command " ++ Program.marked word)
      if signal = 9 then return .signalled 9
      else return .exited (if Program.isGiven given 'p' then 128 + signal else 124)
    | .error leave, _ => (throw leave : Act Finish)
    | .ok (.ok finish), _ | .ok (.error finish), _ => return finish
  | _ =>
    b.hint
    leave 125

/-! ## Where programs are -/

/-- The program that tells where others are found. -/
def which (b : Begun) : Starting Finish := do
  let s ← getThe State
  let given := b.arguments.takeWhile fun a => a.startsWith "-" && a != "-" && a != "--"
  let words := b.arguments.drop given.length
  let words := if words.head? == some "--" then words.drop 1 else words
  let letters := given.flatMap fun g => g.toList.drop 1
  if let some c := letters.find? fun c => c != 'a' && c != 's' then
    write 2 ("Illegal option -" ++ String.singleton c ++ "\nUsage: " ++ b.name ++ " [-as] args\n")
    leave 2
  let found (word : String) : List String :=
    if word == "" then []
    else (candidates (searchPath b.environment) word).filter fun path =>
      (startable s.system.files s.cwd path).isOk
  for word in words do
    if !letters.contains 's' then
      for path in (if letters.contains 'a' then found word else (found word).take 1) do
        write 1 (path ++ "\n")
  return .exited (if !words.isEmpty && words.all fun word => !(found word).isEmpty then 0 else 1)

end Begun

end Converge.Shell
