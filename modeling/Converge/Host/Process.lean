import Converge.Host.Files

/-!
# Commands of the host

Starting a command: its words and its directory are judged first, then the system starts it or
refuses to, and at last what it printed is read as text with a line feed for each line end.
-/

namespace Converge.Host

def wordOf (v : Value) : Except Fault ByteArray :=
  match v with
  | .text s => (Text.encodeRaw s).mapError .encoding
  | .bytes b => .ok b
  | v => .error (.misuse (.pathFromValue v.typeName))

/-- A word without the character U+0000. -/
def wholeWord (v : Value) : Except Fault ByteArray := do
  let word ← wordOf v
  if word.toList.contains 0 then throw .nul else return word

/-- The directory in which a command runs, when one is given. -/
def directoryOf (v : Value) : Except Fault (Option String) :=
  match v with
  | .null => .ok none
  | v => do
    let bytes ← wholeWord v
    match v, Text.decode bytes with
    | .text path, _ | _, .ok path => return some path
    | _, .error _ => return some "\uFFFD"

/-- The command of some words and a directory. The first word must be one before all else. -/
def commandOf (words : List Value) (directory : Value) : Except Fault Command := do
  match words with
  | [] => throw .noWords
  | first :: _ =>
    let _ ← wordOf first
    let words ← words.mapM wholeWord
    return ⟨words, ← directoryOf directory⟩

/-- What printed bytes say. -/
def outputText (bytes : ByteArray) : Except Fault String :=
  match Text.decode bytes with
  | .ok s => .ok (Text.unifyNewlines s)
  | .error fault => .error (.decoding fault)

/-- A command is started; its outcome is what the system makes of it. -/
def launch (c : Command) : Action Host Launch :=
  .of fun h =>
    let (outcome, files) := h.launcher h.asked c h.files
    (.ok outcome, { h with files, asked := c :: h.asked })

/-- A command is run to its end: its status and what it printed. -/
def run (words : List Value) (directory : Value) : Action Host (Int × String) := do
  let command ← .ofExcept (commandOf words directory)
  match ← launch command with
  | .refused errno =>
    throw (.system ⟨errno, ((words.headD .null).display?).getD ""⟩)
  | .ended status output => return (status, ← .ofExcept (outputText output))

end Converge.Host
