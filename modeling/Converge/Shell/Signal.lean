/-!
# Signals

The signals of the system by their numbers, with what becomes of a process that gets one.
-/

namespace Converge.Shell.Signal

/-- The names of the signals, the first being that of number 1. -/
def names : List String :=
  ["HUP", "INT", "QUIT", "ILL", "TRAP", "ABRT", "BUS", "FPE", "KILL", "USR1", "SEGV", "USR2", "PIPE", "ALRM",
    "TERM", "16", "CHLD", "CONT", "STOP", "TSTP", "TTIN", "TTOU", "URG", "XCPU", "XFSZ", "VTALRM", "PROF",
    "WINCH", "IO", "PWR", "SYS", "32", "33", "RTMIN"] ++
  (List.range 15).map (fun n => "RTMIN+" ++ toString (n + 1)) ++
  (List.range 14).map (fun n => "RTMAX-" ++ toString (14 - n)) ++ ["RTMAX"]

/-- The name of a signal; the end of a shell counts as number zero. -/
def name? (number : Nat) : Option String :=
  if number = 0 then some "EXIT" else names[number - 1]?

/-- The number that a word gives, by itself or by a name in any case. -/
def number? (word : String) : Option Nat :=
  match word.toNat? with
  | some n => if n ≤ 64 && !word.contains '_' then some n else none
  | none =>
    if word.toUpper == "EXIT" then some 0
    else (names.findIdx? fun n => n == word.toUpper).map (· + 1)

/-- A process goes on although it gets the signal. -/
def isHarmless (number : Nat) : Bool := number = 0 || [17, 18, 23, 28].contains number

/-- The words for the end of a process by a signal; none where nothing is told. -/
def words? (number : Nat) : Option String :=
  match number with
  | 1 => some "Hangup"
  | 2 => none
  | 3 => some "Quit"
  | 4 => some "Illegal instruction"
  | 5 => some "Trace/breakpoint trap"
  | 6 => some "Aborted"
  | 7 => some "Bus error"
  | 8 => some "Floating point exception"
  | 9 => some "Killed"
  | 10 => some "User defined signal 1"
  | 11 => some "Segmentation fault"
  | 12 => some "User defined signal 2"
  | 13 => none
  | 14 => some "Alarm clock"
  | 15 => some "Terminated"
  | 16 => some "Stack fault"
  | 24 => some "CPU time limit exceeded"
  | 25 => some "File size limit exceeded"
  | 26 => some "Virtual timer expired"
  | 27 => some "Profiling timer expired"
  | 29 => some "I/O possible"
  | 30 => some "Power failure"
  | 31 => some "Bad system call"
  | n => some ("Unknown signal " ++ toString n)

end Converge.Shell.Signal
