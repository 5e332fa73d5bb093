import Converge.Program.Installed
import Converge.Shell.Expansion
import Converge.Shell.Grammar
import Converge.Shell.Signal

/-!
# Processes

Starting programs and shells, and the ways in which they end. A program is found along a path and
started from its file: one of the system works by itself, and a script names the program that reads
it. How a command is carried out is a parameter here.
-/

namespace Converge.Shell

open Act

/-- What is said about a command from outside: its failure is looked at, or it is the last thing that
the process does. -/
structure Flags where
  tested : Bool
  last : Bool

abbrev Runner := Flags → Command → Act Unit

/-- A program to be started: its path, its words and what it finds in its environment. -/
structure Call where
  path : String
  words : List String
  environment : List (String × String)

/-! ## Scripts -/

/-- The lines of a script carried out; `last` says that nothing follows them in the process. -/
def interpret (self : Runner) (last : Bool) : (fuel : Nat) → Script → Act Unit
  | 0, _ => return ()
  | n + 1, s =>
    match TokenReader.readLine s with
    | .error fault => do
      modify fun st => { st with line := fault.line }
      fail fault.words
    | .ok (.ending, _) => return ()
    | .ok (.nothing, s) => interpret self last n s
    | .ok (.command c, s) => do
      let noMore := s.rest.all fun c => c == ' ' || c == '\t' || c == '\n'
      self ⟨false, last && noMore⟩ c
      interpret self last n s

/-- A text carried out as a script, from a line on. -/
def interpretText (self : Runner) (last : Bool) (line : Nat) (text : String) : Act Unit :=
  interpret self last (text.length + 2) ⟨text.toList, line, 0⟩

/-- A process brought to its end, at which its last trap is carried out. -/
def closing (self : Runner) (a : Act Unit) : Act Nat := do
  let status ← match ← attempt a with
    | .ok () => pure (← get).status
    | .error (.exit n) | .error (.fault n) | .error (.returns n) => pure n
    | .error (.breaks _) | .error (.continues _) => pure (← get).status
    | .error leave => throw leave
  let s ← get
  match s.traps.lookup "EXIT" with
  | none | some "" => return status
  | some action =>
    set { s with traps := s.traps.filter fun t => t.1 != "EXIT", status }
    match ← attempt (interpretText self false 1 action) with
    | .error (.exit n) | .error (.fault n) => return n
    | .error (.signalled n) => throw (.signalled n)
    | .error (.killed n) => throw (.killed n)
    | .error .expired => throw .expired
    | _ => return status

/-- What was started in the background under a number, run to its end by `split` if it has not been.
Where it does not end before a limit, nothing of it is done yet. -/
def runTask (split : Act Unit → Act Finish) (self : Runner) (limit : Option Nat) (number : Nat) :
    Act (Option Finish) := do
  let s ← get
  match s.tasks.lookup number with
  | none => return none
  | some (.ended finish _) => return some finish
  | some (.waiting shell c since) =>
    let body : Act Unit := do
      leadNew 0 .null
      self ⟨false, true⟩ c
    let deadline := match limit, s.system.deadline with
      | some a, some b => some (min a b)
      | a, b => a <|> b
    let system := { s.system with clock := since, deadline }
    let (result, after) := (ExceptT.run (split body)).run { toFrame := shell, system, tasks := [] }
    let ended (finish : Finish) : Act Unit := do
      let clock := if limit.isSome then s.system.clock else max s.system.clock after.system.clock
      let system := { after.system.withMask s.system.files.mask with clock, deadline := s.system.deadline }
      let tasks := s.tasks.map fun t => if t.1 = number then (number, Task.ended finish false) else t
      set { s with system, tasks }
    match result, limit with
    | .ok finish, _ =>
      ended finish
      return some finish
    | .error .expired, some _ => return none
    | .error leave, _ =>
      ended (.exited 0)
      throw leave

/-- Something done in a shell split off from this one, which waits at its end for all that it has
started in the background; `depth` bounds how far such things are inside of each other. -/
def splitDeep (self : Runner) : (depth : Nat) → Act Unit → Act Finish
  | depth, a => do
    let inner : Act Nat := do
      modify fun s => { s with traps := s.traps.filter fun t => t.2 == "" }
      let status ← closing self a
      match depth with
      | 0 => return status
      | n + 1 =>
        for (number, _) in (← get).tasks do
          let _ ← runTask (splitDeep self n) self none number
        return status
    match ← apart inner with
    | .ok n => return .exited (n % 256)
    | .error (.signalled n) => return .signalled n
    | .error (.killed n) => throw (.killed n)
    | .error .expired => throw .expired
    | .error _ => return .exited 0

/-- The depth to which things started in the background may be inside of each other. -/
def taskDepth : Nat := 100

/-- Something done in a shell split off from this one. -/
def split (self : Runner) (a : Act Unit) : Act Finish := splitDeep self taskDepth a

/-- What was started in the background under a number, brought to its end. -/
def awaitTask (self : Runner) (number : Nat) : Act (Option Finish) := runTask (split self) self none number

/-- All that was started in the background brought to its end. -/
def awaitTasks (self : Runner) : Act Unit := do
  for (number, _) in (← get).tasks do
    let _ ← awaitTask self number

/-- Time passes, in which what was started in the background goes on. -/
def idle (self : Runner) (time : Nat) : Act Unit := do
  if time ≠ 0 then
    let s ← get
    for (number, _) in s.tasks do
      let _ ← runTask (split self) self (some (s.system.clock + time)) number
    pass time

/-- The end of a process made the status; the end by a signal is told. -/
def conclude (f : Finish) : Act Unit := do
  match f with
  | .exited n => settle n
  | .refused _ => settle 127
  | .signalled n =>
    if let some words := Signal.words? n then write 2 (words ++ "\n")
    settle (128 + n)

/-- What commands print, as a text; their status is kept. -/
def substitute (self : Runner) (body : Option Command) : Act String := do
  match body with
  | none =>
    modify fun s => { s with substituted := 0 }
    return ""
  | some c =>
    let s ← get
    let (id, system) := s.system.openChannel (.pipe "")
    set { s with system, places := (1, id) :: s.places.filter fun p => p.1 != 1 }
    let finish ← attempt (split self (self ⟨false, true⟩ c))
    modify fun t => { t with places := s.places }
    let text := (← get).system.readable id
    match finish with
    | .error leave => throw leave
    | .ok f =>
      let before := (← get).status
      conclude f
      modify fun s => { s with substituted := s.status, status := before }
      return String.ofList (text.toList.filter (· ≠ '\x00'))

/-! ## Finding and starting -/

/-- The paths that are tried for a word, in the order of the directories of a path. -/
def candidates (searchPath word : String) : List String :=
  if word.contains '/' then [word]
  else (Program.between ':' searchPath.toList).map fun d =>
    if d.isEmpty then word else Program.beneath (String.ofList d) word

def startable (files : FileSystem) (cwd : Place) (path : String) : Except Errno (Place × ByteArray) :=
  match files.stat cwd true (Text.textOf path) with
  | .error errno => .error errno
  | .ok (place, .file content mode) =>
    if mode &&& 0o111 = 0 then .error .noAccess else .ok (place, content)
  | .ok _ => .error .noAccess

/-- The first path that can be started, or the reason why there is none. -/
def findProgram (s : State) (searchPath word : String) : Except Errno String :=
  let tried := (candidates searchPath word).map fun path =>
    (path, startable s.system.files s.cwd path)
  match tried.find? fun t => t.2.isOk with
  | some (path, _) => .ok path
  | none =>
    let reasons := tried.filterMap fun t => match t.2 with
      | .error errno => if errno = .noEntry || errno = .notDirectory then none else some errno
      | .ok _ => none
    .error (reasons.headD .noEntry)

/-- The directories in which programs are looked for. -/
def usualPath : String := "/usr/local/sbin:/usr/local/bin:/usr/sbin:/usr/bin:/sbin:/bin"

/-- A program of the system carried out at the places of this shell. -/
def runJob (self : Runner) (name : String) (job : Program.Job Unit) : Act Nat := do
  let s ← get
  let source := (s.places.lookup 0).getD 0
  let isSized := match s.system.channel? source with
    | some (.file ..) => true
    | _ => false
  let w := Program.Job.finish job
    ⟨name, s.system.files, s.cwd, s.system.readable source, isSized, [], 0, 0⟩
  let system := if w.input == s.system.readable source then s.system
    else s.system.leave source w.input.length
  set { s with system := { system with files := w.files } }
  for (output, text) in w.printed.reverse do
    write (match output with | .usual => 1 | .errors => 2) text
  idle self w.time
  return w.status

/-- The program and the argument that the first line of a script names. -/
def scriptProgram? (content : ByteArray) : Option (String × List String) :=
  match (content.toList.take 256).map fun b => Char.ofNat b.toNat with
  | '#' :: '!' :: rest =>
    let isBlank (c : Char) : Bool := c == ' ' || c == '\t'
    let line := rest.takeWhile fun c => c != '\n' && c != '\x00'
    let line := ((line.dropWhile isBlank).reverse.dropWhile isBlank).reverse
    let program := line.takeWhile fun c => !isBlank c
    let argument := (line.drop program.length).dropWhile isBlank
    if program.isEmpty then none
    else some (String.ofList program, if argument.isEmpty then [] else [String.ofList argument])
  | _ => none

/-- The letters of options that a shell takes. -/
def optionNames : List (Char × String) :=
  [('e', "errexit"), ('f', "noglob"), ('I', "ignoreeof"), ('i', "interactive"), ('m', "monitor"),
    ('n', "noexec"), ('s', "stdin"), ('x', "xtrace"), ('v', "verbose"), ('V', "vi"), ('E', "emacs"),
    ('C', "noclobber"), ('a', "allexport"), ('b', "notify"), ('u', "nounset"), ('p', "privileged")]

/-- The names of options that have no letter and stay as they are. -/
def bareOptionNames : List String := ["nolog", "debug"]

def withOption (options : List Char) (isOn : Bool) (c : Char) : List Char :=
  let others := options.filter (· != c)
  if isOn then c :: others else others

def isOptionLetter (c : Char) : Bool := optionNames.any fun o => o.1 == c

/-- What a shell is started with. -/
structure Start where
  options : List Char
  isCommand : Bool
  left : List String

/-- The options in front of the words of a shell, or what is wrong with them. -/
def startOptions (options : List Char) (isCommand : Bool) : (fuel : Nat) → List String → Except String Start
  | 0, words => .ok ⟨options, isCommand, words⟩
  | n + 1, words =>
    match words with
    | "-" :: rest | "--" :: rest => .ok ⟨options, isCommand, rest⟩
    | word :: rest =>
      match word.toList with
      | sign :: c :: cs =>
        if sign == '-' || sign == '+' then
          let isOn := sign == '-'
          letters isOn n (c :: cs) rest options isCommand
        else .ok ⟨options, isCommand, words⟩
      | _ => .ok ⟨options, isCommand, words⟩
    | [] => .ok ⟨options, isCommand, []⟩
where
  /-- The letters of one word. -/
  letters (isOn : Bool) (n : Nat) (cs : List Char) (rest : List String) (options : List Char)
      (isCommand : Bool) : Except String Start :=
    match cs with
    | [] => startOptions options isCommand n rest
    | 'c' :: cs => letters isOn n cs rest options true
    | 'l' :: cs => letters isOn n cs rest options isCommand
    | 'o' :: cs =>
      match rest with
      | [] => letters isOn n cs [] options isCommand
      | name :: rest =>
        match optionNames.find? fun o => o.2 == name with
        | some (c, _) => letters isOn n cs rest (withOption options isOn c) isCommand
        | none => .error ("Illegal option -o " ++ name)
    | c :: cs =>
      if isOptionLetter c then letters isOn n cs rest (withOption options isOn c) isCommand
      else .error ("Illegal option -" ++ String.singleton c)

def firstVariables (environment : List (String × String)) (path : String) (parent : Nat) : Table Variable :=
  let usual : List (String × Variable) :=
    [("IFS", " \t\n"), ("OPTIND", "1"), ("PATH", usualPath), ("PPID", toString parent), ("PS1", "# "),
      ("PS2", "> "), ("PS4", "+ ")].map fun v => (v.1, ⟨some v.2, false, false⟩)
  let given := (environment.filter fun e => isName e.1 && e.1 != "IFS").map fun e =>
    (e.1, (⟨some e.2, true, false⟩ : Variable))
  Table.ofList (usual ++ given ++ [("PWD", ⟨some path, true, false⟩)])

/-- The content of a file for a shell to read; a directory has none. -/
def readScript (s : State) (path : String) : Except Errno ByteArray :=
  match s.system.files.read s.cwd (Text.textOf path) with
  | .error .isDirectory => .ok ByteArray.empty
  | content => content

def shellBody (self : Runner) (name : String) (words : List String) : Act Unit := do
  match startOptions [] false (words.length + 2) words with
  | .error fault => fail fault
  | .ok start =>
    modify fun s => { s with options := start.options }
    let run (last : Bool) (text : String) : Act Unit := do
      modify fun s => { s with line := 1 }
      interpretText self last 1 text
    if start.isCommand then
      match start.left with
      | [] => fail "-c requires an argument"
      | text :: rest =>
        modify fun s => { s with name := rest.headD name, arguments := rest.drop 1 }
        run true text
    else
      match start.left, start.options.contains 's' with
      | path :: rest, false =>
        let s ← get
        match readScript s path with
        | .ok content =>
          modify fun s => { s with name := path, arguments := rest }
          run false (Text.octets content.toList)
        | .error errno =>
          let reason := match errno with
            | .noEntry | .notDirectory => "No such file"
            | errno => errno.text
          fail ("cannot open " ++ path ++ ": " ++ reason)
      | arguments, _ =>
        let s ← get
        let source := (s.places.lookup 0).getD 0
        let text := s.system.readable source
        set { s with arguments, system := s.system.leave source 0 }
        run false text

def startShell (self : Runner) (name : String) (environment : List (String × String))
    (given : List String) : Act Finish := do
  let s ← get
  let path := Program.placeText s.cwd
  let path := match environment.lookup "PWD" with
    | some logical =>
      match s.system.files.stat s.cwd true (Text.textOf logical) with
      | .ok (place, _) => if place == s.cwd && logical.startsWith "/" then logical else path
      | .error _ => path
    | none => path
  let number := s.system.nextProcess
  let inner : State :=
    { system := { s.system with nextProcess := number + 1 }
      name, process := number, isInner := false, arguments := []
      bindings := firstVariables environment path s.process
      functions := ∅, places := s.places, cwd := s.cwd, path
      status := 0, substituted := 0, options := [], line := 0, command := none
      loops := 0, calls := 0, saved := [], traps := [], signals := [], rank := s.rank, lastStarted := none,
      tasks := [] }
  let body : Act Nat := do
    let status ← closing self (shellBody self name given)
    awaitTasks self
    return status
  let (result, after) := (ExceptT.run body).run inner
  set { s with system := after.system.withMask s.system.files.mask }
  match result with
  | .ok n => return .exited (n % 256)
  | .error (.signalled n) | .error (.killed n) => return .signalled n
  | .error .expired => throw .expired
  | .error _ => return .exited 0

end Converge.Shell
