import Converge.Program.Basic

/-!
# Options of programs

Options stand anywhere among the arguments, or in front of them only, up to two dashes. Short ones
may stand together behind one dash; a long one may be cut short as long as it stays the only one.
-/

namespace Converge.Program

/-- Whether an option takes an argument. -/
inductive Need where
  | none
  | required
  | optional
deriving DecidableEq

/-- An option of a program; `key` is its short form where `hasShort` says so. -/
structure OptionForm where
  key : Char
  long : String
  need : Need
  hasShort : Bool := true

/-- An option that is given, with its argument. -/
structure Given where
  key : Char
  value : Option String

/-- What is wrong with an option. -/
inductive OptionFault where
  | invalid (key : Char)
  | unrecognized (word : String)
  | ambiguous (word : String) (candidates : List String)
  | missing (key : Char)
  | missingLong (long : String)
  | needless (long : String)

def OptionFault.message : OptionFault → String
  | invalid key => "invalid option -- '" ++ String.singleton key ++ "'"
  | unrecognized word => "unrecognized option '" ++ word ++ "'"
  | ambiguous word candidates =>
    "option '" ++ word ++ "' is ambiguous; possibilities:" ++
      String.join (candidates.map fun c => " '--" ++ c ++ "'")
  | missing key => "option requires an argument -- '" ++ String.singleton key ++ "'"
  | missingLong long => "option '--" ++ long ++ "' requires an argument"
  | needless long => "option '--" ++ long ++ "' doesn't allow an argument"

/-- The short options behind one dash; the arguments that are left. -/
def shortOptions (forms : List OptionForm) (rest : List String) :
    List Char → Except OptionFault (List Given × List String)
  | [] => .ok ([], rest)
  | c :: cs =>
    match forms.find? fun f => f.hasShort && f.key == c with
    | none => .error (.invalid c)
    | some f =>
      match f.need with
      | .none => (shortOptions forms rest cs).map fun (more, rest) => (⟨c, none⟩ :: more, rest)
      | .optional => .ok ([⟨c, if cs.isEmpty then none else some (String.ofList cs)⟩], rest)
      | .required =>
        if cs.isEmpty then
          match rest with
          | [] => .error (.missing c)
          | value :: rest => .ok ([⟨c, some value⟩], rest)
        else .ok ([⟨c, some (String.ofList cs)⟩], rest)

/-- The long option of a word without its dashes; the arguments that are left. -/
def longOption (forms : List OptionForm) (word : String) (rest : List String) :
    Except OptionFault (Given × List String) :=
  let cs := word.toList
  let name := String.ofList (cs.takeWhile (· ≠ '='))
  let value : Option String := match cs.dropWhile (· ≠ '=') with
    | _ :: value => some (String.ofList value)
    | [] => none
  let longs := forms.filter fun f => f.long != ""
  let whole := longs.filter fun f => f.long == name
  let found := if whole.isEmpty then longs.filter fun f => f.long.startsWith name else whole
  match found with
  | [] => .error (.unrecognized ("--" ++ name))
  | f :: more =>
    if more.any fun g => g.key ≠ f.key then
      .error (.ambiguous ("--" ++ name) (found.map (·.long)))
    else
      match f.need, value, rest with
      | .none, some _, _ => .error (.needless f.long)
      | .none, none, rest => .ok (⟨f.key, none⟩, rest)
      | .optional, value, rest => .ok (⟨f.key, value⟩, rest)
      | .required, some value, rest => .ok (⟨f.key, some value⟩, rest)
      | .required, none, value :: rest => .ok (⟨f.key, some value⟩, rest)
      | .required, none, [] => .error (.missingLong f.long)

/-- The options and the other words among arguments; `anywhere` says that options may stand behind
other words. -/
def optionsOf (forms : List OptionForm) (anywhere : Bool) :
    (fuel : Nat) → List String → Except OptionFault (List Given × List String)
  | 0, arguments => .ok ([], arguments)
  | _, [] => .ok ([], [])
  | fuel + 1, word :: rest =>
    match word.toList with
    | ['-', '-'] => .ok ([], rest)
    | '-' :: '-' :: long => do
      let (given, rest) ← longOption forms (String.ofList long) rest
      let (more, words) ← optionsOf forms anywhere fuel rest
      return (given :: more, words)
    | '-' :: c :: cs => do
      let (given, rest) ← shortOptions forms rest (c :: cs)
      let (more, words) ← optionsOf forms anywhere fuel rest
      return (given ++ more, words)
    | _ =>
      if anywhere then do
        let (given, words) ← optionsOf forms anywhere fuel rest
        return (given, word :: words)
      else .ok ([], word :: rest)

def OptionForm.flag (key : Char) (long : String := "") : OptionForm := ⟨key, long, .none, true⟩

def OptionForm.value (key : Char) (long : String := "") : OptionForm := ⟨key, long, .required, true⟩

def OptionForm.onlyLong (key : Char) (long : String) (need : Need := .none) : OptionForm :=
  ⟨key, long, need, false⟩

/-- The options and the other words of a program's arguments, or its end with a complaint. -/
def Job.options (forms : List OptionForm) (arguments : List String) (status : Nat := 1)
    (anywhere : Bool := true) : Job (List Given × List String) :=
  match optionsOf forms anywhere (arguments.length + 1) arguments with
  | .ok found => return found
  | .error fault => Job.misuse fault.message status

def isGiven (given : List Given) (key : Char) : Bool := given.any fun g => g.key == key

/-- The argument of an option, the last one that is given. -/
def valueOf (given : List Given) (key : Char) : Option String :=
  (given.reverse.find? fun g => g.key == key).bind (·.value)

end Converge.Program
