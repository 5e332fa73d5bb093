import Converge.Shell.Builtin

/-!
# Carrying out commands

What each kind of command does. `step` says it of a command when it is known of the commands in it,
and `run` ties the knot with fuel that is more than any script needs that comes to an end.
-/

namespace Converge.Shell

open Act

/-! ## Redirections -/

/-- The words for a reason why a file cannot be opened. -/
def openReason (makes : Bool) (errno : Errno) : String :=
  if errno = .noEntry || errno = .notDirectory then
    (if makes then "Directory nonexistent" else "No such file")
  else errno.text

def leadSame (place other : Nat) : Act Unit := do
  match (← get).places.lookup other with
  | some id => lead place id
  | none => fail (toString other ++ ": Bad file descriptor")

def placeOf? (path : String) : Option Nat :=
  match path with
  | "/dev/stdin" => some 0
  | "/dev/stdout" => some 1
  | "/dev/stderr" => some 2
  | path => if path.startsWith "/dev/fd/" then (String.ofList (path.toList.drop 8)).toNat? else none

def leadFile (place : Nat) (kind : Turn) (path : String) : Act Unit := do
  let s ← get
  let wrong (makes : Bool) (errno : Errno) : Act Unit :=
    fail ((if makes then "cannot create " else "cannot open ") ++ path ++ ": " ++ openReason makes errno)
  let isNull (p : Place) : Bool := p == Program.Job.nullPlace
  match placeOf? path with
  | some other => leadSame place other
  | none =>
    match kind with
    | .input =>
      match s.system.files.stat s.cwd true (Text.textOf path) with
      | .error errno => wrong false errno
      | .ok (p, .file ..) => leadNew place (if isNull p then .null else .file p 0 false)
      | .ok _ => leadNew place .null
    | kind =>
      match s.system.files.resolve s.cwd .file (Text.textOf path) with
      | .error errno => wrong true errno
      | .ok (.vacant p) =>
        set { s with system := { s.system with
          files := s.system.files.insert p (.file ByteArray.empty s.system.files.fileMode) } }
        leadNew place (.file p 0 (kind = .append))
      | .ok (.taken p (.file _ mode)) =>
        if isNull p then leadNew place .null
        else
          if kind ≠ .append && kind ≠ .both then
            if kind = .output && s.options.contains 'C' then wrong true .fileExists
            else set { s with system := { s.system with
              files := s.system.files.insert p (.file ByteArray.empty mode) } }
          leadNew place (.file p 0 (kind = .append))
      | .ok (.taken ..) => wrong true .isDirectory

def redirect (self : Runner) : Redirection → Act Unit
  | .turn place kind word => do
    let text ← expandText (substitute self) false word
    match kind with
    | .document => leadNew place (.pipe text)
    | .copy =>
      if text == "-" then modify fun s => { s with places := s.places.filter fun p => p.1 != place }
      else if text.length = 1 && text.all Char.isDigit then leadSame place ((text.toNat?).getD 0)
      else fail "Syntax error: Bad fd number"
    | kind => leadFile place kind text

def redirectAll (self : Runner) (rs : List Redirection) : Act Unit := do
  for r in rs do
    redirect self r

/-- What is done with redirections, after which all places lead where they led before; a fault in
them takes its place. -/
def redirected (self : Runner) (rs : List Redirection) (a : Act Unit) : Act Unit := do
  let before := (← get).places
  match ← attempt (redirectAll self rs) with
  | .error (.fault n) =>
    modify fun s => { s with places := before, status := n }
  | .error leave => throw leave
  | .ok () =>
    let result ← attempt a
    modify fun s => { s with places := before }
    match result with
    | .ok () => return ()
    | .error leave => throw leave

/-! ## Simple commands -/

/-- What the first word of a command names. -/
inductive Kind where
  | special
  | function (body : Command)
  | regular
  | program

/-- What a word names as the first of a command. -/
def kindOf (s : State) (word : String) (functions : Bool) : Kind :=
  if specialNames.contains word then .special
  else match functions, s.functions.get? word with
    | true, some body => .function body
    | _, _ => if regularNames.contains word then .regular else .program

def restored (olds : List (String × Option Variable)) (bindings : Table Variable) : Table Variable :=
  olds.foldl (fun t o => match o.2 with
    | some v => t.insert o.1 v
    | none => t.erase o.1) bindings

/-- Variables set for what is done, and set back behind it. -/
def withVariables (values : List (String × String)) (a : Act Unit) : Act Unit := do
  let before := values.map fun v => v.1
  let s ← get
  let olds := before.map fun name => (name, s.bindings.get? name)
  for (name, value) in values do
    assign name value true
  let result ← attempt a
  modify fun s => { s with bindings := restored olds s.bindings }
  match result with
  | .ok () => return ()
  | .error leave => throw leave

def call (self : Runner) (flags : Flags) (body : Command) (arguments : List String) : Act Unit := do
  let s ← get
  set { s with
    arguments
    loops := 0
    calls := s.calls + 1
    saved := [] :: s.saved }
  let result ← attempt (self ⟨flags.tested, false⟩ body)
  modify fun t =>
    let kept := t.saved.headD []
    { t with
      arguments := s.arguments
      loops := s.loops
      calls := s.calls
      saved := s.saved
      bindings := restored kept t.bindings }
  match result with
  | .ok () => return ()
  | .error (.returns n) => settle n
  | .error leave => throw leave

/-- A program of the system started, with its end made the status. -/
def launch (self : Runner) (flags : Flags) (words : List String) : Act Unit := do
  let word := words.headD ""
  let s ← get
  let searchPath := (← read? "PATH").getD usualPath
  let missing (errno : Errno) : Act Unit := do
    let isMissing := errno = .noEntry || errno = .notDirectory
    complain (word ++ ": " ++ if isMissing then "not found" else errno.text)
    settle (if isMissing then 127 else 126)
  match findProgram s searchPath word with
  | .error errno => missing errno
  | .ok path =>
    let environment ← environment
    let finish ← match ← start self startFuel ⟨path, words, environment⟩ with
      | .refused .noFormat => startShell self "/bin/sh" environment (path :: words.drop 1)
      | f => pure f
    match finish with
    | .refused errno => missing errno
    | .signalled n => if flags.last && s.traps.isEmpty then throw (.signalled n) else conclude finish
    | finish => conclude finish

/-- The words of a command with those in front passed that only say how it is found: whether
functions count, and whether its meaning is only told, in short or in a phrase. -/
def commandWords : (fuel : Nat) → List String → Act (List String × Option Bool)
  | 0, words => return (words, none)
  | n + 1, words =>
    match words with
    | "command" :: rest => do
      let (given, rest) ← Builtin.options "pvV" rest
      if given.contains 'v' then return (rest, some true)
      else if given.contains 'V' then return (rest, some false)
      else commandWords n rest
    | words => return (words, none)

def carryOut (self : Runner) (flags : Flags) (kind : Kind) (words : List String) : Act Unit := do
  let name := words.headD ""
  let inside (isSpecial : Bool) : Act Unit := do
    let before := (← get).command
    modify fun s => { s with command := some name }
    let result ← attempt (Builtin.run self name (words.drop 1))
    modify fun s => { s with command := before }
    match result, isSpecial with
    | .ok (), _ => return ()
    | .error (.fault n), false => settle n
    | .error leave, _ => throw leave
  match kind with
  | .special => inside true
  | .regular => inside false
  | .function body => call self flags body (words.drop 1)
  | .program => launch self flags words

/-- The words of a command as they are told before it is carried out. -/
def trace (channel : Option Nat) (values : List (String × String)) (words : List String) : Act Unit := do
  let s ← get
  if s.options.contains 'x' then
    let front := (← read? "PS4").getD ""
    let told := (values.map fun v => v.1 ++ "=" ++ v.2) ++ words
    if let some id := channel then
      modify fun s => { s with system := s.system.write id (front ++ " ".intercalate told ++ "\n") }

def simple (self : Runner) (flags : Flags) (line : Nat) (assignments : List (String × List Piece))
    (words : List (List Piece)) (rs : List Redirection) : Act Unit := do
  modify fun s => { s with line, substituted := 0 }
  let sub := substitute self
  let first ← match words with
    | [] => pure []
    | w :: _ => expandWord sub w
  let isMarking := match first with
    | ["export"] | ["readonly"] | ["local"] => true
    | _ => false
  let rest ← (words.drop 1).mapM fun w =>
    if isMarking && (TokenReader.assignment? w).isSome then do return [← expandText sub true w]
    else expandWord sub w
  let all := first ++ rest.flatten
  let channel := (← get).places.lookup 2
  let (found, tells) ← match all with
    | "command" :: _ => do
      let before := (← get).command
      modify fun s => { s with command := some "command" }
      let result ← attempt (commandWords all.length all)
      modify fun s => { s with command := before }
      match result with
      | .ok found => pure found
      | .error (.fault n) => do
        settle n
        throw (.fault n)
      | .error leave => throw leave
    | all => pure (all, none)
  let passed := found.length != all.length
  let s ← get
  let kind := kindOf s (found.headD "") (!passed)
  let isSpecial := match kind with
    | .special => !passed
    | _ => false
  let values : Act (List (String × String)) := assignments.mapM fun (name, value) => do
    return (name, ← expandText sub true value)
  let before := s.places
  match ← attempt (redirectAll self rs) with
  | .error (.fault n) => do
    modify fun s => { s with places := before, status := n }
    if isSpecial then throw (.fault n)
  | .error leave => throw leave
  | .ok () =>
    let isExec := found.headD "" == "exec"
    let body : Act Unit := do
      match found with
      | [] =>
        for (name, value) in assignments do
          let text ← expandText sub true value
          assign name text
          trace channel [(name, text)] []
        settle (← get).substituted
      | found =>
        let values ← values
        trace channel values all
        match tells with
        | some short => withVariables values (Builtin.tellMeanings short found)
        | none =>
          if isSpecial then
            for (name, value) in values do
              assign name value
            carryOut self flags kind found
          else
            let outer : Kind := match kind with
              | .special => .regular
              | kind => kind
            withVariables values (carryOut self flags outer found)
    let result ← attempt body
    if !isExec || found.length ≠ 1 then modify fun s => { s with places := before }
    match result with
    | .ok () => return ()
    | .error leave => throw leave

/-! ## Commands -/

/-- Traps of signals that have come, carried out. -/
def answerSignals (self : Runner) : Act Unit := do
  let s ← get
  if !s.signals.isEmpty then
    set { s with signals := [] }
    for n in s.signals do
      let name := (Signal.name? n).getD (toString n)
      if let some action := s.traps.lookup name then
        let status := (← get).status
        interpretText self false s.line action
        settle status

/-- A failure ends a shell that is to end at one. -/
def checked (flags : Flags) (a : Act Unit) : Act Unit := do
  a
  let s ← get
  if !flags.tested && s.options.contains 'e' && s.status ≠ 0 then throw (.exit s.status)

/-- The body of a loop; whether the loop goes on behind it. -/
def round (a : Act Unit) : Act Bool := do
  match ← attempt a with
  | .ok () => return true
  | .error (.breaks n) => if n ≤ 1 then return false else throw (.breaks (n - 1))
  | .error (.continues n) => if n ≤ 1 then return true else throw (.continues (n - 1))
  | .error leave => throw leave

/-- A loop as long as its condition holds; `status` is that of the last round. -/
def loop (self : Runner) (flags : Flags) (turned : Bool) (condition body : Command) :
    (fuel : Nat) → (status : Nat) → Act Unit
  | 0, status => settle status
  | n + 1, status => do
    let mut holds := false
    let goesOn ← round (self ⟨true, false⟩ condition)
    if goesOn then holds := ((← get).status = 0) != turned
    if !goesOn || !holds then settle (if goesOn then status else 0)
    else if ← round (self ⟨flags.tested, false⟩ body) then
      loop self flags turned condition body n (← get).status
    else return ()

def looping (a : Act Unit) : Act Unit := do
  modify fun s => { s with loops := s.loops + 1 }
  let result ← attempt a
  modify fun s => { s with loops := s.loops - 1 }
  match result with
  | .ok () => return ()
  | .error leave => throw leave

/-- The commands of a pipeline one after the other, each reading what the one before has printed;
how each of them ends. -/
def pipeline (self : Runner) (input : Option Nat) : List Command → Act (List Finish)
  | [] => return []
  | c :: rest => do
    let s ← get
    let isLast := rest.isEmpty
    let (id, system) := s.system.openChannel (.pipe "")
    if !isLast then set { s with system }
    if let some channel := input then lead 0 channel
    if !isLast then lead 1 id
    let result ← attempt (split self (self ⟨false, true⟩ c))
    modify fun t => { t with places := s.places }
    match result with
    | .error leave => throw leave
    | .ok finish => return finish :: (← if isLast then pure [] else pipeline self (some id) rest)

def roundFuel : Nat := 1000000

/-- What a command does, given what the commands in it do. -/
def step (self : Runner) (flags : Flags) (c : Command) : Act Unit := do
  if (← get).options.contains 'n' then return ()
  let sub := substitute self
  match c with
  | .simple line assignments words rs => checked flags (simple self flags line assignments words rs)
  | .pipeline commands => checked flags (do
      for finish in ← pipeline self none commands do
        conclude finish)
  | .negated c =>
    self ⟨true, false⟩ c
    settle (if (← get).status = 0 then 1 else 0)
  | .both a b =>
    self ⟨true, false⟩ a
    if (← get).status = 0 then self flags b
  | .either a b =>
    self ⟨true, false⟩ a
    if (← get).status ≠ 0 then self flags b
  | .row a b =>
    self ⟨flags.tested, false⟩ a
    self flags b
  | .background c =>
    let s ← get
    let number := s.system.nextProcess
    let isKept (t : Nat × Task) : Bool := match t.2 with
      | .ended _ told => !told
      | .waiting .. => true
    set { s with
      system := { s.system with nextProcess := number + 1 }
      lastStarted := some number
      tasks := s.tasks.filter isKept ++ [(number, Task.waiting s.toFrame c s.system.clock)] }
    settle 0
  | .redirected line c rs =>
    modify fun s => { s with line }
    redirected self rs (self ⟨flags.tested, false⟩ c)
  | .subshell line c rs =>
    modify fun s => { s with line }
    checked flags (do
      let finish ← split self (do
        redirectAll self rs
        self ⟨flags.tested, true⟩ c)
      match finish with
      | .signalled n => if flags.last && (← get).traps.isEmpty then throw (.signalled n) else conclude finish
      | finish => conclude finish)
  | .choice condition yes no =>
    self ⟨true, false⟩ condition
    if (← get).status = 0 then self flags yes
    else match no with
      | some c => self flags c
      | none => settle 0
  | .loop turned condition body => looping (loop self flags turned condition body roundFuel 0)
  | .each line name words body =>
    modify fun s => { s with line }
    let values := (← words.mapM (expandWord sub)).flatten
    settle 0
    looping (do
      for value in values do
        assign name value
        if !(← round (self ⟨flags.tested, false⟩ body)) then break)
  | .select line word cases =>
    modify fun s => { s with line }
    let text := (← expandText sub false word).toList
    settle 0
    for (patterns, body) in cases do
      let mut fits := false
      for p in patterns do
        if !fits then fits := (← expandPattern sub p).matchesAll text
      if fits then
        if let some c := body then self flags c
        break
  | .define name body =>
    modify fun s => { s with functions := s.functions.insert name body, status := 0 }
  answerSignals self

/-- What a command does. -/
def run : (fuel : Nat) → Runner
  | 0 => fun _ _ => throw (.exit 2)
  | n + 1 => fun flags c => step (run n) flags c

/-- More fuel than commands inside of each other can need. -/
def depth : Nat := 3000

end Converge.Shell
