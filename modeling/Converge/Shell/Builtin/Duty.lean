import Converge.Shell.Builtin.Basic

/-!
# Signals and what runs in the background

Signals are answered and sent, and what was started in the background is waited for.
-/

namespace Converge.Shell.Builtin

open Act

/-- What is done about signals, set or told. -/
def trap (words : List String) : Act Unit := do
  let (_, words) ← options "" words
  match words with
  | [] =>
    let s ← get
    let rank (t : String × String) : Nat := (Signal.number? t.1).getD 0
    for (name, action) in s.traps.mergeSort fun a b => rank a ≤ rank b do
      say ("trap -- " ++ quoted action ++ " " ++ name ++ "\n")
    settle 0
  | first :: rest =>
    let isSignal := first != "" && first.all Char.isDigit && (Signal.number? first).isSome
    let (action, signals) := if rest.isEmpty || isSignal then ("-", words) else (first, rest)
    settle 0
    for word in signals do
      match Signal.number? word with
      | none => do
        write 2 ("trap: " ++ word ++ ": bad trap\n")
        settle 1
        break
      | some n =>
        let name := (Signal.name? n).getD (toString n)
        modify fun s =>
          let others := s.traps.filter fun t => t.1 != name
          { s with traps := if action == "-" then others else others ++ [(name, action)] }

/-! ## Tasks -/

/-- The number of the process that a word names by its place among what was started; no word names
the last. -/
def taskNumber (word : String) : Act Nat := do
  let tasks := (← get).tasks
  let (found, fault) := match word with
    | "" | "%" | "%+" | "%%" => (tasks.getLast?, "No current job")
    | "%-" => (tasks.dropLast.getLast?, "No previous job")
    | word =>
      let place := match word.toList with
        | '%' :: digits => (String.ofList digits).toNat?
        | _ => none
      (place.bind fun n => if n = 0 then none else tasks[n - 1]?, "No such job: " ++ word)
  match found with
  | some (number, _) => return number
  | none => fail fault

/-- What was started in the background waited for. -/
def wait (self : Runner) (words : List String) : Act Unit := do
  let (_, words) ← options "" words
  let told (number : Nat) : Act Unit := modify fun s =>
    let waited (t : Nat × Task) : Nat × Task := match t.2 with
      | .ended finish _ => (t.1, .ended finish (t.1 = number))
      | _ => t
    { s with tasks := s.tasks.map fun t => if t.1 = number then waited t else t }
  if words.isEmpty then
    awaitTasks self
    for (number, _) in (← get).tasks do
      told number
    settle 0
  for word in words do
    let target ← if word.startsWith "%" then taskNumber word else number word
    match ← awaitTask self target with
    | some finish =>
      conclude finish
      told target
    | none => settle 127

/-- What runs in the background told, the newest first. -/
def jobs (words : List String) : Act Unit := do
  let (_, words) ← options "lp" words
  for word in words do
    let _ ← taskNumber word
  let tasks := (← get).tasks
  let entry (t : (Nat × Task) × Nat) : Option String :=
    let sign := if t.2 + 1 = tasks.length then "+" else if t.2 + 2 = tasks.length then "-" else " "
    match t.1.2 with
    | .waiting .. => some ("[" ++ toString (t.2 + 1) ++ "] " ++ sign ++ " Running" ++
        String.ofList (List.replicate 20 ' ') ++ "\n")
    | .ended .. => none
  for line in (tasks.zipIdx.filterMap entry).reverse do
    say line
  settle 0

/-- What runs in the background brought to the front, which this shell never does. -/
def bring (words : List String) : Act Unit := do
  let (_, words) ← options "" words
  let word := words.headD ""
  let _ ← taskNumber word
  fail ("job " ++ (if words.isEmpty then "(null)" else word) ++ " not created under job control")

/-! ## Signals sent -/

def strike (signal : Nat) : Act Unit := do
  let s ← get
  let trap := s.traps.lookup ((Signal.name? signal).getD "")
  if signal = 9 then throw (.killed signal)
  match trap with
  | some "" => return ()
  | some _ => set { s with signals := s.signals ++ [signal] }
  | none => if !Signal.isHarmless signal then throw (.killed signal)

/-- A signal sent to what a word names; whether there is such a process. -/
def send (signal : Nat) (word : String) : Act Bool := do
  if word.startsWith "%" then
    let _ ← taskNumber word
    complain "No such process\n"
    return false
  let isGroup := word.startsWith "-"
  let target ← number (if isGroup then String.ofList (word.toList.drop 1) else word)
  let s ← get
  if target = 0 || (target = s.process && !isGroup) then
    strike signal
    return true
  else
    match s.tasks.lookup target, isGroup with
    | some (.waiting ..), false =>
      if !Signal.isHarmless signal then
        let ended := Task.ended (.signalled signal) false
        let tasks := s.tasks.map fun t => if t.1 = target then (target, ended) else t
        set { s with tasks }
      return true
    | some (.ended _ false), false => return true
    | _, _ => do
      complain "No such process\n"
      return false

/-- The names of signals told, or the one of a number. -/
def tellSignals (words : List String) : Act Unit := do
  match words with
  | [] =>
    say "0\n"
    for name in Signal.names do
      say (name ++ "\n")
  | word :: _ =>
    let n ← number word
    let n := if 128 < n then n - 128 else n
    match Signal.name? n, n == 0 with
    | some name, false => say (name ++ "\n")
    | _, _ => fail ("invalid signal number or exit status: " ++ word)
  settle 0

/-- Signals sent to processes, or told. -/
def kill (words : List String) : Act Unit := do
  let usage {α : Type} : Act α :=
    fail "Usage: kill [-s sigspec | -signum | -sigspec] [pid | job]... or\nkill -l [exitstatus]"
  let named (name : String) : Option Nat := if name.toUpper == "EXIT" then none else Signal.number? name
  if words.isEmpty then usage
  let first := words.headD ""
  let (signal, tells, targets) : Option Nat × Bool × List String ← do
    if first.startsWith "-" then
      match named (String.ofList (first.toList.drop 1)) with
      | some n => pure (some n, false, words.drop 1)
      | none => do
        let (given, rest) ← optionsWith "ls:" words
        let signals ← (given.filter fun o => o.1 == 's').mapM fun o => do
          match named o.2 with
          | some n => return n
          | none => fail ("invalid signal number or name: " ++ o.2)
        pure (signals.getLast?, given.any fun o => o.1 == 'l', rest)
    else pure (none, false, words)
  if tells then
    if signal.isSome then usage
    tellSignals targets
  else
    if targets.isEmpty then usage
    let mut status := 0
    for word in targets do
      if !(← send (signal.getD 15) word) then status := 1
    settle status

end Converge.Shell.Builtin
