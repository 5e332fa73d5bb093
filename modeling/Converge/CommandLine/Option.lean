/-!
# Options of a command line

The words of a command line are options and other words. An option is written with its long name or
with its letter; letters can be joined behind one hyphen, and the value of an option stands behind
an equals sign, behind its letter, or in the next word whatever that is. Two hyphens end the
options.
-/

namespace Converge.CommandLine

/-- What an option is about. -/
inductive Topic where
  | debug
  | keepGoing
  | verbose
  | backend
  | noop
  | noNoop
  | config
  | execute
  | help
deriving DecidableEq, Repr

/-- How an option is written, and whether a value belongs to it. -/
structure Form where
  topic : Topic
  long : String
  letter : Option Char
  takesValue : Bool
deriving DecidableEq, Repr

/-- Why a command line cannot be followed. -/
inductive UsageFault where
  /-- An option needs a value and the command line ends. -/
  | needsValue (option : String)
  /-- An option has a value and takes none. -/
  | takesNoValue (option : String)
  | unknownOption (option : String)
  | noCommand
  | unknownCommand (name : String)
  | noWord (name : String)
  | extraWords (words : List String)
  /-- A path is none that the system takes. -/
  | badPath (name reason : String)
deriving DecidableEq, Repr

def UsageFault.message : UsageFault → String
  | needsValue option => "Option '" ++ option ++ "' requires an argument."
  | takesNoValue option => "Option '" ++ option ++ "' does not take a value."
  | unknownOption option => "No such option: " ++ option
  | noCommand => "Missing command."
  | unknownCommand name => "No such command '" ++ name ++ "'."
  | noWord name => "Missing argument '" ++ name ++ "'."
  | extraWords words =>
    "Got unexpected extra argument" ++ (if words.length = 1 then "" else "s") ++ " (" ++
      " ".intercalate words ++ ")"
  | badPath name reason => "Invalid value for '" ++ name ++ "': " ++ reason

/-- The fault is about the value of an option alone; any other calls for the usage to be shown. -/
def UsageFault.isAboutValue : UsageFault → Bool
  | needsValue _ | takesNoValue _ => true
  | _ => false

/-- The words of a command line, sorted: options with their values, and the others, both in order. -/
structure Words where
  options : List (Topic × String)
  others : List String
deriving DecidableEq, Repr

namespace Words

def addOption (topic : Topic) (value : String) (w : Words) : Words :=
  { w with options := (topic, value) :: w.options }

/-- Several options more at the front. -/
def addOptions (options : List (Topic × String)) (w : Words) : Words :=
  { w with options := options ++ w.options }

/-- One other word more at the front. -/
def addOther (word : String) (w : Words) : Words := { w with others := word :: w.others }

def last? (w : Words) (topic : Topic) : Option String := w.options.reverse.lookup topic

/-- The option is there. -/
def has (w : Words) (topic : Topic) : Bool := (w.last? topic).isSome

def lastOf? (w : Words) (yes no : Topic) : Option Bool :=
  (w.options.reverse.find? fun e => e.1 = yes || e.1 = no).map fun e => e.1 = yes

end Words

/-- What joined letters say: options that are complete, and one that takes the next word. -/
structure Letters where
  complete : List (Topic × String)
  waiting : Option Form

/-- Joined letters, read by the forms of a command. -/
def readLetters (forms : List Form) : List Char → Except UsageFault Letters
  | [] => .ok ⟨[], none⟩
  | c :: rest =>
    match forms.find? fun f => f.letter == some c with
    | none => .error (.unknownOption (String.ofList ['-', c]))
    | some f =>
      if f.takesValue then
        if rest.isEmpty then .ok ⟨[], some f⟩ else .ok ⟨[(f.topic, String.ofList rest)], none⟩
      else (readLetters forms rest).map fun l => { l with complete := (f.topic, "") :: l.complete }

/-- The name of a long option, and the value behind an equals sign. -/
def splitValue (word : String) : String × Option String :=
  let chars := word.toList
  let name := String.ofList (chars.takeWhile (· ≠ '='))
  match chars.dropWhile (· ≠ '=') with
  | _ :: value => (name, some (String.ofList value))
  | [] => (name, none)

/-- An option that a word is: a complete one, or one that takes the next word under the given
spelling. -/
inductive Reading where
  | complete (options : List (Topic × String))
  | waiting (before : List (Topic × String)) (topic : Topic) (spelling : String)

/-- The option that a word is; one hyphen alone, or none, makes no option. -/
def readOption (forms : List Form) (word : String) : Except UsageFault Reading :=
  let (name, value) := splitValue word
  match forms.find? fun f => f.long == name with
  | some f =>
    match f.takesValue, value with
    | true, some value => .ok (.complete [(f.topic, value)])
    | true, none => .ok (.waiting [] f.topic name)
    | false, none => .ok (.complete [(f.topic, "")])
    | false, some _ => .error (.takesNoValue name)
  | none =>
    match word.toList with
    | '-' :: '-' :: _ => .error (.unknownOption name)
    | _ :: letters => (readLetters forms letters).map fun l =>
      match l.waiting with
      | none => .complete l.complete
      | some f => .waiting l.complete f.topic (String.ofList ('-' :: f.letter.toList))
    | [] => .ok (.complete [])

def isOption (word : String) : Bool :=
  match word.toList with
  | '-' :: _ :: _ => true
  | _ => false

/-- The words of a command line, sorted by the forms of a command; `mixed` says whether options can
follow other words. -/
def sort (forms : List Form) (mixed : Bool) : List String → Except UsageFault Words
  | [] => .ok ⟨[], []⟩
  | word :: rest =>
    if word = "--" then .ok ⟨[], rest⟩
    else if isOption word then
      match readOption forms word with
      | .error fault => .error fault
      | .ok (.complete options) => (sort forms mixed rest).map (·.addOptions options)
      | .ok (.waiting before topic spelling) =>
        match rest with
        | [] => .error (.needsValue spelling)
        | value :: rest =>
          (sort forms mixed rest).map fun w => (w.addOption topic value).addOptions before
    else if mixed then (sort forms mixed rest).map (·.addOther word)
    else .ok ⟨[], word :: rest⟩

end Converge.CommandLine
