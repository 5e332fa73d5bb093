import Converge.Program.Basic
import Converge.Program.Layout
import Converge.Program.Naming

/-!
# Formatted output

A format is written with its arguments in the places of its directives, and again from its start as
long as it takes up arguments. Escapes in it stand for single bytes or characters. The program of
the system and the one inside of a shell differ in what they take and in how they complain.
-/

namespace Converge.Program

/-- The program of the system, or the one inside of a shell. -/
inductive Dialect where
  | system
  | shell
deriving DecidableEq

/-! ## Escapes -/

/-- What the characters behind a backslash come to. -/
inductive Escaped where
  /-- They stand for a text, in front of what follows. -/
  | made (text : String) (rest : List Char)
  /-- They end all output. -/
  | ends
  | broken (words : String)

def byteOf (n : Nat) : String := String.singleton (Char.ofNat (n % 256))

/-- Digits at the front, at most so many: their number, how many they are and what follows. -/
def takeAtMost (base : Nat) (most : Nat) (s : List Char) : Nat × Nat × List Char :=
  let ds := (takePlainDigits base (s.take most)).1
  (Text.ofDigits base ds, ds.length, s.drop ds.length)

/-- The character of a single letter behind a backslash. -/
def letterEscape? (c : Char) : Option Char :=
  match c with
  | 'a' => some '\x07'
  | 'b' => some '\x08'
  | 'e' => some '\x1b'
  | 'f' => some '\x0c'
  | 'n' => some '\n'
  | 'r' => some '\r'
  | 't' => some '\t'
  | 'v' => some '\x0b'
  | '\\' => some '\\'
  | _ => none

/-- A character given by so many digits in base sixteen, as in the form that a letter begins. -/
def universal (letter : Char) (count : Nat) (s : List Char) : Escaped :=
  match takeAtMost 16 count s with
  | (n, found, rest) =>
    if found < count then .broken "missing hexadecimal number in escape"
    else if 0xD800 ≤ n ∧ n ≤ 0xDFFF then
      .broken ("invalid universal character name \\" ++ String.ofList (letter :: s.take count))
    else .made (Text.octetsOf (String.singleton (Char.ofNat n))) rest

/-- What stands behind a backslash; `zero` says that an octal number may begin with a zero more. -/
def escaped (dialect : Dialect) (zero : Bool) (s : List Char) : Escaped :=
  match s with
  | [] => .made "\\" []
  | c :: rest =>
    match letterEscape? c with
    | some made => .made (String.singleton made) rest
    | none =>
      if (Text.digitOf? 8 c).isSome then
        let (n, _, rest) := takeAtMost 8 3 (if zero && c == '0' then rest else s)
        .made (byteOf n) rest
      else
        match dialect, c with
        | .system, '"' => .made "\"" rest
        | .system, 'c' => .ends
        | .shell, 'c' => if zero then .ends else .made "\\c" rest
        | .system, 'x' =>
          match takeAtMost 16 2 rest with
          | (_, 0, _) => .broken "missing hexadecimal number in escape"
          | (n, _, rest) => .made (byteOf n) rest
        | .system, 'u' => universal 'u' 4 rest
        | .system, 'U' => universal 'U' 8 rest
        | _, c => .made ("\\" ++ String.singleton c) rest

/-- A text with its escapes, up to one that ends it or is broken; the rule says what stands behind
a backslash. -/
def unescape (rule : List Char → Escaped) : (fuel : Nat) → List Char → String × Escaped
  | 0, s => ("", .made "" s)
  | _, [] => ("", .made "" [])
  | fuel + 1, '\\' :: rest =>
    match rule rest with
    | .made text rest =>
      let (more, last) := unescape rule fuel rest
      (text ++ more, last)
    | last => ("", last)
  | fuel + 1, c :: rest =>
    let (more, last) := unescape rule fuel rest
    (String.singleton c ++ more, last)

/-- An argument with its escapes, and whether output goes on behind it. -/
def unescapeArgument (dialect : Dialect) (s : String) : String × Escaped :=
  unescape (escaped dialect true) (s.length + 1) s.toList

/-! ## Numbers -/

/-- What is wrong with the number of an argument. -/
inductive NumberFault where
  | nothing
  | partly
  | range

def NumberFault.message (dialect : Dialect) (argument : String) : NumberFault → String
  | nothing => match dialect with
    | .system => marked argument ++ ": expected a numeric value"
    | .shell => argument ++ ": expected numeric value"
  | partly => match dialect with
    | .system => marked argument ++ ": value not completely converted"
    | .shell => argument ++ ": not completely converted"
  | range => match dialect with
    | .system => marked argument ++ ": Numerical result out of range"
    | .shell => argument ++ ": Numerical result out of range"

/-- The number nearest to one that a word of 64 bits has, with or without a sign. -/
def withinWord (signed : Bool) (i : Int) : Int :=
  if signed then max (-9223372036854775808) (min i 9223372036854775807)
  else if i < -18446744073709551615 ∨ 18446744073709551615 < i then 18446744073709551615
  else i

def wholeOf (dialect : Dialect) (signed : Bool) (argument : String) : Int × Option NumberFault :=
  match takeWhole argument.toList with
  | (none, []) => (0, none)
  | (none, _) => (0, some .nothing)
  | (some i, rest) =>
    let kept := withinWord signed i
    let partly := if rest.isEmpty then none else some NumberFault.partly
    let range := if kept = i then none else some NumberFault.range
    (kept, match dialect with
      | .system => range <|> partly
      | .shell => partly <|> range)

def realOf (dialect : Dialect) (argument : String) : Real × Option NumberFault :=
  match Real.take? (match dialect with | .system => 64 | .shell => 53) argument.toList with
  | (none, []) => (.finite false 0 1, none)
  | (none, _) => (.finite false 0 1, some .nothing)
  | (some x, []) => (x, none)
  | (some x, _ :: _) => (x, some .partly)

/-- The number of the first character behind a quotation mark, and what follows it. -/
def characterOf? (dialect : Dialect) (argument : String) : Option (Nat × List Char) :=
  match argument.toList with
  | mark :: c :: rest =>
    if mark ≠ '\'' ∧ mark ≠ '"' then none
    else match dialect with
      | .shell => some (c.toNat, [])
      | .system =>
        match (Text.textOf (String.ofList (c :: rest))).toList with
        | whole :: _ =>
          if c.toNat < 128 || whole == '\uFFFD' then some (c.toNat, rest)
          else some (whole.toNat, (c :: rest).drop whole.utf8Size)
        | [] => none
  | [mark] => if dialect = .shell && (mark == '\'' || mark == '"') then some (0, []) else none
  | [] => none

/-- The number of an argument, with complaints about what is wrong with it. -/
def takeNumber {α : Type} (dialect : Dialect) (ofNat : Nat → α) (read : String → α × Option NumberFault)
    (argument : String) : Job α :=
  match characterOf? dialect argument with
  | some (n, rest) => do
    if !rest.isEmpty then
      Job.complain ("warning: " ++ String.ofList rest ++
        ": character(s) following character constant have been ignored")
    return ofNat n
  | none => do
    let (value, fault) := read argument
    if let some fault := fault then Job.fault (fault.message dialect argument)
    return value

/-! ## Directives -/

/-- A directive of a format; an asterisk leaves a number to the next argument. -/
structure Directive where
  flags : List Char
  width : Option Nat
  precision : Option (Option Nat)
  /-- Letters for the size of a number, which say nothing here. -/
  sizes : List Char
  form : Option Char
  /-- All of it, with its percent sign. -/
  written : List Char
  rest : List Char

/-- A number at the front, or none for an asterisk. -/
def takeExtent (s : List Char) : Option Nat × List Char :=
  match s with
  | '*' :: rest => (none, rest)
  | s =>
    let (ds, rest) := takePlainDigits 10 s
    (some (Text.ofDigits 10 ds), rest)

def directiveOf (dialect : Dialect) (s : List Char) : Directive :=
  let isFlag (c : Char) := "-+ #0".contains c || (dialect = .system && c == '\'')
  let flags := s.takeWhile isFlag
  let (width, r) := takeExtent (s.dropWhile isFlag)
  let (precision, r) : Option (Option Nat) × List Char := match r with
    | '.' :: r =>
      let (n, r) := takeExtent r
      (some n, r)
    | r => (none, r)
  let isSize (c : Char) := dialect = .system && "lLhjtz".contains c
  let sizes := r.takeWhile isSize
  let r := r.dropWhile isSize
  ⟨flags, width, precision, sizes, r.head?, '%' :: s.take (s.length - r.length + 1), r.drop 1⟩

/-- The form of a directive is one that its flags admit. -/
def Directive.isValid (d : Directive) (dialect : Dialect) (form : Char) : Bool :=
  match dialect with
  | .shell => "bcsdiouxXaAeEfFgG".contains form
  | .system =>
    "csdiouxXaAeEfFgG".contains form &&
      !(d.flags.contains '\'' && "aAceEosxX".contains form) &&
      !(d.flags.contains '#' && "cdisu".contains form) &&
      !(d.flags.contains '0' && "cs".contains form) &&
      !(d.precision.isSome && form == 'c')

/-- The argument in front of the others, which is empty where there is none. -/
def nextArgument (arguments : List String) : String × List String :=
  (arguments.headD "", arguments.tail)

/-- A number for the extent of a directive, from an argument where an asterisk says so. -/
def takeExtentArgument (dialect : Dialect) (extent : Option Nat) (arguments : List String) :
    Job (Int × List String) :=
  match extent, arguments with
  | some n, arguments => return (n, arguments)
  | none, [] => return (0, [])
  | none, a :: rest => do
    return (← takeNumber dialect (fun n => (n : Int)) (wholeOf dialect true) a, rest)

/-- A directive carried out: the arguments that are left, and whether output goes on. -/
def place (dialect : Dialect) (d : Directive) (arguments : List String) : Job (List String × Bool) := do
  let invalid := match dialect with
    | .system => "invalid conversion specification"
    | .shell => "invalid directive"
  let refusal : Job (List String × Bool) :=
    Job.refuse (String.ofList d.written ++ ": " ++ invalid) (if dialect = .shell then 2 else 1)
  let (width, arguments) ← takeExtentArgument dialect d.width arguments
  let (precision, arguments) ← match d.precision with
    | none => pure (none, arguments)
    | some extent => do
      let (n, arguments) ← takeExtentArgument dialect extent arguments
      pure (if n < 0 then none else some n.toNat, arguments)
  match d.form with
  | none =>
    if dialect = .shell then Job.refuse "missing format character" 2 else refusal
  | some form =>
    if !d.isValid dialect form then refusal
    else
      let l : Layout :=
        ⟨d.flags.contains '-' || width < 0, d.flags.contains '+', d.flags.contains ' ',
          d.flags.contains '#', d.flags.contains '0', width.natAbs, precision⟩
      let (argument, rest) := nextArgument arguments
      match form with
      | 's' =>
        Job.say (l.text argument)
        return (rest, true)
      | 'c' =>
        let first := match argument.toList with
          | c :: _ => String.singleton c
          | [] => "\x00"
        Job.say (l.pad first)
        return (rest, true)
      | 'b' =>
        let (body, last) := unescapeArgument dialect argument
        Job.say (l.text body)
        return (rest, match last with | .made .. => true | _ => false)
      | form =>
        if "diouxX".contains form then
          let signed := form == 'd' || form == 'i'
          let i ← takeNumber dialect (fun n => (n : Int)) (wholeOf dialect signed) argument
          Job.say (l.whole form i)
        else
          let x ← takeNumber dialect (fun n => Real.finite false n 1) (realOf dialect) argument
          Job.say (l.real form x)
        return (rest, true)

/-- An argument with its escapes put out; whether output goes on. -/
def sayUnescaped (argument : String) : Job Unit := do
  let (body, last) := unescapeArgument .system argument
  Job.say body
  match last with
  | .made .. => return ()
  | .ends => throw 0
  | .broken words => Job.refuse words

/-- A format once through: the arguments that are left, and whether output goes on. -/
def through (dialect : Dialect) : (fuel : Nat) → List Char → List String → Job (List String × Bool)
  | 0, _, arguments => return (arguments, false)
  | _, [], arguments => return (arguments, true)
  | fuel + 1, '\\' :: rest, arguments =>
    match escaped dialect false rest with
    | .made text rest => do
      Job.say text
      through dialect fuel rest arguments
    | .ends => throw 0
    | .broken words => Job.refuse words
  | fuel + 1, '%' :: '%' :: rest, arguments => do
    Job.say "%"
    through dialect fuel rest arguments
  | fuel + 1, '%' :: rest, arguments => do
    let (argument, others) := nextArgument arguments
    match dialect, rest with
    | .system, 'b' :: rest =>
      sayUnescaped argument
      through dialect fuel rest others
    | .system, 'q' :: rest =>
      if !arguments.isEmpty then Job.say (plainName argument)
      through dialect fuel rest others
    | dialect, rest =>
      let d := directiveOf dialect rest
      let (arguments, goesOn) ← place dialect d arguments
      if goesOn then through dialect fuel d.rest arguments else return (arguments, false)
  | fuel + 1, c :: rest, arguments => do
    let run := c :: rest.takeWhile fun c => c ≠ '%' ∧ c ≠ '\\'
    Job.say (String.ofList run)
    through dialect fuel ((c :: rest).drop run.length) arguments

/-- A format again and again, as long as it takes up arguments; those that it leaves. -/
def again (dialect : Dialect) (format : String) : (fuel : Nat) → List String → Job (List String)
  | 0, arguments => return arguments
  | fuel + 1, arguments => do
    let (left, goesOn) ← through dialect (format.length + 1) format.toList arguments
    if !goesOn then return []
    else if left.isEmpty || left.length = arguments.length then return left
    else again dialect format fuel left

def printf (dialect : Dialect) (arguments : List String) : Job Unit := do
  let arguments ← match dialect, arguments with
    | _, "--" :: rest => pure rest
    | .system, arguments => pure arguments
    | .shell, first :: rest =>
      match first.toList with
      | '-' :: c :: _ => Job.refuse ("Illegal option -" ++ String.singleton c) 2
      | _ => pure (first :: rest)
    | .shell, [] => pure []
  match dialect, arguments with
  | .system, [] => Job.misuse "missing operand"
  | .shell, [] => Job.refuse "usage: printf format [arg ...]" 2
  | dialect, format :: rest =>
    match dialect, ← again dialect format (rest.length + 1) rest with
    | .system, first :: _ =>
      Job.complain ("warning: ignoring excess arguments, starting with " ++ marked first)
    | _, _ => return ()

/-! ## Words with blanks between them -/

/-- The options of the program that prints its words: whether each of its letters is one. -/
def isEchoOption (word : String) : Bool :=
  match word.toList with
  | '-' :: c :: cs => (c :: cs).all fun c => "neE".contains c
  | _ => false

/-- The escapes of the program that prints its words. -/
def echoEscape (s : List Char) : Escaped :=
  match s with
  | 'x' :: rest =>
    match takeAtMost 16 2 rest with
    | (_, 0, _) => .made "\\x" rest
    | (n, _, rest) => .made (byteOf n) rest
  | 'c' :: _ => .ends
  | c :: rest =>
    match letterEscape? c with
    | some made => .made (String.singleton made) rest
    | none =>
      if (Text.digitOf? 8 c).isSome then
        let (n, _, rest) := takeAtMost 8 3 (if c == '0' then rest else s)
        .made (byteOf n) rest
      else .made ("\\" ++ String.singleton c) rest
  | [] => .made "\\" []

/-- The program that prints its words with blanks between them. -/
def echo (arguments : List String) : Job Unit := do
  let options := arguments.takeWhile isEchoOption
  let letters := options.flatMap fun word => word.toList.drop 1
  let text := " ".intercalate (arguments.drop options.length)
  let escapes := (letters.filter fun c => c == 'e' || c == 'E').getLast? == some 'e'
  let newline := if letters.contains 'n' then "" else "\n"
  if escapes then
    match unescape echoEscape (text.length + 1) text.toList with
    | (body, .made ..) => Job.say (body ++ newline)
    | (body, _) => Job.say body
  else Job.say (text ++ newline)

/-- The words that a shell prints: escapes in them always count. -/
def shellEcho (arguments : List String) : Job Unit := do
  let (newline, arguments) := match arguments with
    | "-n" :: rest => ("", rest)
    | arguments => ("\n", arguments)
  match unescapeArgument .shell (" ".intercalate arguments) with
  | (body, .made ..) => Job.say (body ++ newline)
  | (body, _) => Job.say body

end Converge.Program
