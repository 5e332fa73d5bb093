import Converge.Shell.Starter

/-!
# Changed environments

The program that changes the environment of another, or tells it, and the one that tells variables.
-/

namespace Converge.Shell

open Act

/-- The settings in front of words, and the words behind them. -/
def settingsOf : List String → List (String × String) × List String
  | [] => ([], [])
  | word :: rest =>
    if word.contains '=' then
      let (more, words) := settingsOf rest
      ((String.ofList (word.toList.takeWhile (· ≠ '=')),
        String.ofList ((word.toList.dropWhile (· ≠ '=')).drop 1)) :: more, words)
    else ([], word :: rest)

/-- A variable of an environment with another value, which keeps its place. -/
def withSetting (environment : List (String × String)) (e : String × String) : List (String × String) :=
  if environment.any fun f => f.1 == e.1 then environment.map fun f => if f.1 == e.1 then e else f
  else environment ++ [e]

def tellEnvironment (ending : String) (environment : List (String × String)) : Act Unit := do
  for (name, value) in environment do
    write 1 (name ++ "=" ++ value ++ ending)

/-- The words of a text that stands for several of them: between blanks, with quotation marks and
backslashes as in a shell. -/
def wordsOfText (text : String) : List String :=
  let step (s : List String × Option (List Char) × Option Char × Bool) (c : Char) :
      List String × Option (List Char) × Option Char × Bool :=
    match s with
    | (done, current, mark, true) =>
      match mark, c with
      | none, '_' => (match current with | some cs => String.ofList cs.reverse :: done | none => done, none, none, false)
      | _, c =>
        let meant := match c with
          | 'n' => '\n'
          | 't' => '\t'
          | 'r' => '\r'
          | 'f' => '\x0c'
          | 'v' => '\x0b'
          | '_' => ' '
          | c => c
        (done, some (meant :: current.getD []), mark, false)
    | (done, current, some q, false) =>
      if c == q then (done, some (current.getD []), none, false)
      else if c == '\\' && q == '"' then (done, current, some q, true)
      else (done, some (c :: current.getD []), some q, false)
    | (done, current, none, false) =>
      if c == '\\' then (done, current, none, true)
      else if c == '\'' || c == '"' then (done, some (current.getD []), some c, false)
      else if c == ' ' || c == '\t' || c == '\n' then
        match current with
        | some cs => (String.ofList cs.reverse :: done, none, none, false)
        | none => (done, none, none, false)
      else (done, some (c :: current.getD []), none, false)
  match text.toList.foldl step ([], none, none, false) with
  | (done, some cs, _) => (String.ofList cs.reverse :: done).reverse
  | (done, none, _) => done.reverse

/-- The arguments with texts given way to their words. -/
def withTextWords : (fuel : Nat) → List String → List String
  | 0, words => words
  | n + 1, words =>
    match words with
    | "-S" :: text :: rest => withTextWords n (wordsOfText text ++ rest)
    | word :: rest =>
      if word.startsWith "-S" then withTextWords n (wordsOfText (String.ofList (word.toList.drop 2)) ++ rest)
      else if word.startsWith "--split-string=" then
        withTextWords n (wordsOfText (String.ofList (word.toList.drop 15)) ++ rest)
      else if word.startsWith "-" && word != "-" && word != "--" then word :: withTextWords n rest
      else words
    | [] => []

namespace Begun

/-- The program that changes the environment of another, or tells it. -/
def env (b : Begun) (other : Starter) : Starting Finish := do
  let b := { b with arguments := withTextWords (b.arguments.length + 1) b.arguments }
  let (given, words) ← b.options
    [.flag 'i' "ignore-environment", .flag '0' "null", .value 'u' "unset", .value 'C' "chdir",
      .flag 'v' "debug"] 125
  let (isBare, words) := match words with
    | "-" :: rest => (true, rest)
    | words => (false, words)
  let start := if isBare || Program.isGiven given 'i' then [] else b.environment
  let unset := (given.filter fun g => g.key == 'u').filterMap (·.value)
  for name in unset do
    if name == "" || name.contains '=' then
      b.refuse ("cannot unset " ++ Program.marked name ++ ": Invalid argument") 125
  let (settings, words) := settingsOf words
  let environment := settings.foldl withSetting (start.filter fun e => !unset.contains e.1)
  let isNull := Program.isGiven given '0'
  let place := Program.valueOf given 'C'
  if words.isEmpty then
    if place.isSome then b.misuse "must specify command with --chdir (-C)" 125
    tellEnvironment (if isNull then "\x00" else "\n") environment
    return .exited 0
  else
    if isNull then b.misuse "cannot specify --null (-0) with command" 125
    let s ← getThe State
    let cwd : Place ← match place with
      | none => pure s.cwd
      | some path =>
        let refused (errno : Errno) : Starting Place :=
          b.refuse ("cannot change directory to " ++ Program.quotedName path ++ ": " ++ errno.text) 125
        match s.system.files.stat s.cwd true (Text.textOf path) with
        | .ok (place, .directory _) => pure place
        | .ok _ => refused .notDirectory
        | .error errno => refused errno
    if Program.isGiven given 'v' then
      write 2 ("executing: " ++ words.headD "" ++ "\n")
      for (word, i) in words.zipIdx do
        write 2 ("   arg[" ++ toString i ++ "]= " ++ Program.marked word ++ "\n")
    within (fun s => { s with cwd }) (fun before s => { s with cwd := before.cwd })
      (b.launch other Program.marked environment words)

/-- The program that tells variables of its environment. -/
def printenv (b : Begun) : Starting Finish := do
  let (given, words) ← b.options [.flag '0' "null"] 2
  let ending := if Program.isGiven given '0' then "\x00" else "\n"
  if words.isEmpty then
    tellEnvironment ending b.environment
    return .exited 0
  else
    let found := words.map fun name => b.environment.lookup name
    for value in found do
      if let some value := value then write 1 (value ++ ending)
    return .exited (if found.all Option.isSome then 0 else 1)

end Begun

end Converge.Shell
