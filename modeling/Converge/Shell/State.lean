import Converge.Program.Basic
import Converge.Shell.Command
import Converge.Table

/-!
# Shells at work

A shell has variables, functions and numbered places for input and output. The places lead to
channels, which belong to the system and are shared with the programs that a shell starts.
-/

namespace Converge.Shell

/-- Where a place for input or output leads. -/
inductive Channel where
  /-- All that is printed in the end. -/
  | console
  /-- Nothing is read from it, and what is written to it vanishes. -/
  | null
  | file (place : Place) (offset : Nat) (append : Bool)
  /-- What has been written and not been read yet. -/
  | pipe (content : String)

/-- What all programs share. -/
structure System where
  files : FileSystem
  /-- The open channels by their numbers. -/
  channels : List (Nat × Channel)
  nextChannel : Nat
  /-- What is printed in the end, the newest first. -/
  printed : List String
  nextProcess : Nat
  /-- The time that has passed, in thousandths of a second. -/
  clock : Nat
  /-- The time at which all that runs is ended. -/
  deadline : Option Nat

namespace System

def openChannel (s : System) (c : Channel) : Nat × System :=
  (s.nextChannel, { s with channels := (s.nextChannel, c) :: s.channels, nextChannel := s.nextChannel + 1 })

def channel? (s : System) (id : Nat) : Option Channel := s.channels.lookup id

def setChannel (s : System) (id : Nat) (c : Channel) : System :=
  { s with channels := (id, c) :: s.channels.filter fun e => e.1 != id }

def bytesAt (s : System) (place : Place) : List UInt8 :=
  match s.files.get? place with
  | some (.file content _) => content.toList
  | _ => []

def write (s : System) (id : Nat) (text : String) : System :=
  if text == "" then s
  else match s.channel? id with
    | some .console => { s with printed := text :: s.printed }
    | some (.pipe content) => s.setChannel id (.pipe (content ++ text))
    | some (.file place offset append) =>
      match s.files.get? place with
      | some (.file content mode) =>
        let before := content.toList
        let start := if append then before.length else offset
        let front := before.take start
        let front := front ++ List.replicate (start - front.length) 0
        let bytes := Text.ofOctets text
        let after := front ++ bytes ++ before.drop (start + bytes.length)
        { s.setChannel id (.file place (start + bytes.length) append) with
          files := s.files.insert place (.file ⟨after.toArray⟩ mode) }
      | _ => s
    | _ => s

/-- What can be read from the channel of a number. -/
def readable (s : System) (id : Nat) : String :=
  match s.channel? id with
  | some (.pipe content) => content
  | some (.file place offset _) => Text.octets ((s.bytesAt place).drop offset)
  | _ => ""

def withMask (s : System) (mask : Nat) : System := { s with files := { s.files with mask } }

/-- All but the last so many bytes of what can be read have been read. -/
def leave (s : System) (id : Nat) (left : Nat) : System :=
  match s.channel? id with
  | some (.pipe content) => s.setChannel id (.pipe (String.ofList (content.toList.drop (content.length - left))))
  | some (.file place offset append) =>
    s.setChannel id (.file place (max offset ((s.bytesAt place).length - left)) append)
  | _ => s

end System

/-- A variable; without a value it only has marks. -/
structure Variable where
  value : Option String
  exported : Bool
  fixed : Bool

/-- How a process ends, or why it does not begin. -/
inductive Finish where
  | exited (status : Nat)
  | signalled (signal : Nat)
  | refused (errno : Errno)

/-- A shell at work, but for what it shares with others. -/
structure Frame where
  name : String
  process : Nat
  /-- The shell is one that another has split off. -/
  isInner : Bool
  arguments : List String
  bindings : Table Variable
  functions : Table Command
  /-- The places for input and output, with the numbers of their channels. -/
  places : List (Nat × Nat)
  cwd : Place
  /-- The path by which the working directory was entered. -/
  path : String
  status : Nat
  /-- The status of what was last put into the place of commands. -/
  substituted : Nat
  options : List Char
  line : Nat
  /-- The program inside of the shell that is carried out; complaints name it. -/
  command : Option String
  loops : Nat
  calls : Nat
  /-- For each function under way, the variables as they were before it. -/
  saved : List (List (String × Option Variable))
  traps : List (String × String)
  /-- Signals that have come and wait to be answered. -/
  signals : List Nat
  /-- How far the process gives way to others. -/
  rank : Int
  lastStarted : Option Nat

/-- Something that was started behind the commands that follow it. -/
inductive Task where
  /-- It runs from a time on, but only when it is waited for or time passes. -/
  | waiting (shell : Frame) (command : Command) (since : Nat)
  /-- It has ended; `told` says that somebody has waited for it. -/
  | ended (finish : Finish) (told : Bool)

/-- A shell at work. -/
structure State extends Frame where
  system : System
  /-- What was started in the background, by process numbers. -/
  tasks : List (Nat × Task)

/-- Why what a shell does is left. -/
inductive Leave where
  /-- The shell ends. -/
  | exit (status : Nat)
  /-- The shell ends after a fault. -/
  | fault (status : Nat)
  | breaks (loops : Nat)
  | continues (loops : Nat)
  | returns (status : Nat)
  /-- The process ends by a signal. -/
  | signalled (signal : Nat)
  /-- The shell by whose number all those split off from it are known ends by a signal. -/
  | killed (signal : Nat)
  /-- All that runs is ended because its time is over. -/
  | expired

/-- What a shell does. -/
abbrev Act := ExceptT Leave (StateM State)

namespace Act

def write (place : Nat) (text : String) : Act Unit :=
  modify fun s => match s.places.lookup place with
    | some id => { s with system := s.system.write id text }
    | none => s

def lead (place channel : Nat) : Act Unit :=
  modify fun s => { s with places := (place, channel) :: s.places.filter fun p => p.1 != place }

def leadNew (place : Nat) (c : Channel) : Act Unit := do
  let s ← get
  let (id, system) := s.system.openChannel c
  set { s with system }
  lead place id

/-- Time passes, and all that runs is ended where the time gets over its end. -/
def pass (time : Nat) : Act Unit := do
  let s ← get
  let now := s.system.clock + time
  match s.system.deadline with
  | none => set { s with system := { s.system with clock := now } }
  | some deadline =>
    set { s with system := { s.system with clock := min now deadline } }
    if deadline ≤ now then throw .expired

def complain (words : String) : Act Unit := do
  let s ← get
  let front := s.name ++ ": " ++ toString s.line ++ ": "
  write 2 (front ++ (match s.command with | some c => c ++ ": " | none => "") ++ words ++ "\n")

/-- A complaint with which the command, and perhaps the shell, ends. -/
def fail {α : Type} (words : String) : Act α := do
  complain words
  modify fun s => { s with status := 2 }
  throw (.fault 2)

def settle (status : Nat) : Act Unit := modify fun s => { s with status }

/-- The value of a variable. -/
def read? (name : String) : Act (Option String) := do
  return ((← get).bindings.get? name).bind (·.value)

/-- A variable is given a value, with marks more. -/
def assign (name value : String) (exported : Bool := false) : Act Unit := do
  let s ← get
  let old := (s.bindings.get? name).getD ⟨none, false, false⟩
  if old.fixed then fail (name ++ ": is read only")
  else
    let exports := exported || old.exported || s.options.contains 'a'
    modify fun s => { s with bindings := s.bindings.insert name ⟨some value, exports, false⟩ }

/-- The variables that programs get. -/
def environment : Act (List (String × String)) := do
  return (← get).bindings.entries.filterMap fun (name, v) => match v.value with
    | some value => if v.exported then some (name, value) else none
    | none => none

/-- What is done, with the state before it restored but for what the system shares. -/
def apart {α : Type} (a : Act α) : Act (Except Leave α) := do
  let before ← get
  let (result, after) := (ExceptT.run a).run { before with isInner := true, signals := [], tasks := [] }
  set { before with system := after.system.withMask before.system.files.mask }
  return result

/-- What is done, and how it ended. -/
def attempt {α : Type} (a : Act α) : Act (Except Leave α) := do
  let (result, after) := (ExceptT.run a).run (← get)
  set after
  return result

end Act

end Converge.Shell
