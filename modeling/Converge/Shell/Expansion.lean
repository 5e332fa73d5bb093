import Converge.Host.Tree
import Converge.Program.Paths
import Converge.Program.Pattern
import Converge.Shell.Arithmetic
import Converge.Shell.State

/-!
# Expansion of words

Parameters, commands and calculations in a word give way to what they stand for. What came out of
them is divided at separators, patterns give way to the names of files, and quotation marks vanish.
-/

namespace Converge.Shell

open Act

/-- A part of an expanded word. -/
inductive Atom where
  /-- A character; `kept` has no meaning but itself, and `divides` may be a separator. -/
  | char (c : Char) (kept divides : Bool)
  /-- A quotation, which makes a field even if nothing stands in it. -/
  | quotation
  /-- The border between two arguments. -/
  | border

namespace Atom

def ofText (s : String) (kept divides : Bool) : List Atom :=
  s.toList.map fun c => .char c kept divides

def ofArguments (arguments : List String) (kept divides : Bool) : List Atom :=
  [Atom.border].intercalate (arguments.map fun a =>
    (if kept then [Atom.quotation] else []) ++ ofText a kept divides)

/-- The text of atoms in a place where no fields are made. -/
def text (atoms : List Atom) : String :=
  String.ofList (atoms.filterMap fun a => match a with
    | char c _ _ => some c
    | quotation => none
    | border => some ' ')

def pattern (atoms : List Atom) : Pattern :=
  atoms.filterMap fun a => match a with
    | char c kept _ => some ⟨c, kept⟩
    | quotation => none
    | border => some ⟨' ', true⟩

end Atom

/-- How a word is expanded: between quotation marks, and with its own characters as separators. -/
structure Manner where
  quoted : Bool
  divides : Bool

/-! ## Parameters -/

def separators : Act String := do
  return (← read? "IFS").getD " \t\n"

def optionLetters (s : State) : String :=
  String.ofList ("efIimnsxvVECabu".toList.filter s.options.contains)

/-- The value of a parameter that is not all of the arguments. -/
def parameter? (name : String) : Act (Option String) := do
  let s ← get
  match name with
  | "#" => return some (toString s.arguments.length)
  | "?" => return some (toString s.status)
  | "$" => return some (toString s.process)
  | "!" => return s.lastStarted.map toString
  | "-" => return some (optionLetters s)
  | "0" => return some s.name
  | name =>
    match name.toNat? with
    | some n => return if n = 0 then some s.name else s.arguments[n - 1]?
    | none => read? name

/-- The home directory that a name after a tilde stands for. -/
def home? (name : String) : Act (Option String) := do
  if name == "" then read? "HOME" else return if name == "root" then some "/root" else none

/-- A word with a tilde in front given way to a home directory. `inValue` says that the word is a
value, in which a tilde may also follow a colon. -/
def withHome (inValue : Bool) : (fuel : Nat) → (front : Bool) → List Piece → Act (List Piece)
  | 0, _, ps => return ps
  | _, _, [] => return []
  | n + 1, true, .plain '~' :: rest => do
    let isNamePart (p : Piece) : Bool := match p with
      | .plain c => c != '/' && !(inValue && c == ':')
      | _ => false
    let named := rest.takeWhile isNamePart
    let behind := rest.drop named.length
    let isEnd := match behind with
      | [] => true
      | .plain c :: _ => c == '/' || c == ':'
      | _ => false
    let name := bareText named
    match isEnd, ← home? name with
    | true, some path => return .single path :: (← withHome inValue n false behind)
    | _, _ => return .plain '~' :: named ++ (← withHome inValue n false behind)
  | n + 1, _, p :: rest => do
    let front := match p with
      | .plain c => inValue && c == ':'
      | _ => false
    return p :: (← withHome inValue n front rest)

/-! ## Pieces -/

def variableNumber (s : State) (name : String) : Except String Int :=
  match (s.bindings.get? name).bind (·.value) with
  | none => .ok 0
  | some text =>
    match Program.takeWhole text.toList with
    | (some i, rest) =>
      if rest.all Program.isNumeralBlank then .ok (max (-9223372036854775808) (min i 9223372036854775807))
      else .error ("Illegal number: " ++ text)
    | (none, _) => if text.all Program.isNumeralBlank then .ok 0 else .error ("Illegal number: " ++ text)

/-- The number of a calculation as a text; what it sets is set. -/
def calculate (text : String) : Act String := do
  match Arithmetic.evaluate (variableNumber (← get)) text with
  | .error (.calculation words) | .error (.variable words) => fail words
  | .ok (i, assigned) =>
    for (name, value) in assigned.reverse do
      assign name (toString value)
    return toString i

def withoutEndLines (s : String) : String :=
  String.ofList ((s.toList.reverse.dropWhile (· == '\n')).reverse)

/-- The fault of a parameter that is not set. -/
def notSet {α : Type} (name : String) (empty : Bool) (words : String) : Act α :=
  fail (name ++ ": " ++ (if words != "" then words
    else if empty then "parameter not set or null" else "parameter not set"))

mutual

/-- The atoms of a word's pieces; `substitute` says what commands print. -/
def expandPieces (substitute : Option Command → Act String) :
    (fuel : Nat) → Manner → List Piece → Act (List Atom)
  | 0, _, _ => return []
  | _, _, [] => return []
  | n + 1, m, p :: rest => do
    let front ← expandPiece substitute n m p
    return front ++ (← expandPieces substitute n m rest)

def expandPiece (substitute : Option Command → Act String) :
    (fuel : Nat) → Manner → Piece → Act (List Atom)
  | 0, _, _ => return []
  | n + 1, m, p => do
    let value (s : String) : List Atom := Atom.ofText s m.quoted (!m.quoted)
    match p with
    | .plain c => return [.char c m.quoted (m.divides && !m.quoted)]
    | .escaped c => return [.quotation, .char c true false]
    | .single s => return .quotation :: Atom.ofText s true false
    | .double ps =>
      let inside ← expandPieces substitute n ⟨true, false⟩ ps
      let isAll := ps.any fun p => match p with
        | .parameter "@" _ _ => true
        | _ => false
      return if inside.isEmpty && isAll && (← get).arguments.isEmpty then [] else .quotation :: inside
    | .commands body => return value (withoutEndLines (← substitute body))
    | .arithmetic ps =>
      let text := Atom.text (← expandPieces substitute n ⟨true, false⟩ ps)
      return value (← calculate text)
    | .parameter name use word =>
      let wordAtoms : Act (List Atom) := do
        let word ← if m.quoted then pure word else withHome false word.length true word
        expandPieces substitute n ⟨m.quoted, true⟩ word
      let wordText : Act String := do return Atom.text (← wordAtoms)
      if use = .invalid then fail "Bad substitution"
      else if name == "@" || name == "*" then
        let arguments := (← get).arguments
        let all : Act (List Atom) := do
          if name == "*" && m.quoted then
            let ifs ← separators
            let joint := match ifs.toList with
              | c :: _ => String.singleton c
              | [] => ""
            return value (joint.intercalate arguments)
          else return Atom.ofArguments arguments m.quoted (!m.quoted)
        let isMissing (empty : Bool) : Bool := arguments.isEmpty || (empty && arguments == [""])
        match use with
        | .length => return value (toString (" ".intercalate arguments).length)
        | .instead empty | .assign empty => if isMissing empty then wordAtoms else all
        | .demand empty => if isMissing empty then notSet name empty (← wordText) else all
        | .alternate empty => if isMissing empty then return [] else wordAtoms
        | _ => all
      else
        let found ← parameter? name
        let unset := (← get).options.contains 'u'
        let isMissing (empty : Bool) : Bool := found.isNone || (empty && found == some "")
        let plain : Act (List Atom) := do
          if found.isNone && unset && name != "!" then notSet name false ""
          else return value (found.getD "")
        match use with
        | .plain | .invalid => plain
        | .length =>
          if found.isNone && unset then notSet name false ""
          else return value (toString (found.getD "").length)
        | .instead empty => if isMissing empty then wordAtoms else plain
        | .alternate empty => if isMissing empty then return [] else wordAtoms
        | .demand empty => if isMissing empty then notSet name empty (← wordText) else plain
        | .assign empty =>
          if isMissing empty then
            if !isName name then fail (name ++ ": bad variable name")
            else
              let text ← wordText
              assign name text
              return value text
          else plain
        | .cut front longest =>
          if found.isNone && unset then notSet name false ""
          else
            let p := Atom.pattern (← expandPieces substitute n ⟨false, false⟩ word)
            let cs := (found.getD "").toList
            return value (String.ofList (if front then p.cutFront longest cs else p.cutEnd longest cs))

end

def pieceFuel : Nat := 100000

/-! ## Fields -/

/-- Fields that are made: those done in reverse, and the one under way. -/
structure Fields where
  done : List (List Atom)
  current : Option (List Atom)
  /-- The last field has been ended by blanks, which a separator may still follow. -/
  blank : Bool

def Fields.close (f : Fields) (blank : Bool) : Fields :=
  match f.current with
  | some atoms => ⟨atoms.reverse :: f.done, none, blank⟩
  | none => { f with blank }

def Fields.put (f : Fields) (a : Atom) : Fields := ⟨f.done, some (a :: f.current.getD []), false⟩

/-- Fields with an atom more: blanks among the separators end a field, and so does each other
separator, be it empty. -/
def Fields.add (ifs : List Char) (f : Fields) (a : Atom) : Fields :=
  match a with
  | .border => f.close false
  | .char c _ true =>
    if !ifs.contains c then f.put a
    else if c == ' ' || c == '\t' || c == '\n' then
      match f.current with
      | some _ => f.close true
      | none => f
    else
      match f.current with
      | some _ => f.close false
      | none => if f.blank then { f with blank := false } else ⟨[] :: f.done, none, false⟩
  | a => f.put a

def fieldsOf (ifs : List Char) (atoms : List Atom) : List (List Atom) :=
  ((atoms.foldl (Fields.add ifs) ⟨[], none, false⟩).close false).done.reverse

/-! ## Names of files -/

def patternParts (p : Pattern) : List Pattern :=
  p.foldr (fun m parts => match parts with
    | part :: rest => if m.char == '/' then [] :: part :: rest else (m :: part) :: rest
    | [] => [[m]]) [[]]

def patternText (p : Pattern) : String := String.ofList (p.map (·.char))

/-- The paths that the parts of a pattern match behind a path. -/
def matchesBehind (s : State) : (front : String) → List Pattern → List String
  | _, [] => []
  | front, [part] => step s front part fun path isLast => if isLast then [path] else []
  | front, part :: rest =>
    step s front part fun path _ => matchesBehind s (path ++ "/") rest
where
  /-- The paths that a part matches behind a path, each brought on. -/
  step (s : State) (front : String) (part : Pattern) (next : String → Bool → List String) : List String :=
    if part.isOpen then
      match s.system.files.stat s.cwd true (if front == "" then "." else Text.textOf front) with
      | .ok (place, .directory _) =>
        let dotted := part.head?.any fun m => m.char == '.'
        let names := [".", ".."] ++ (s.system.files.names place).map Text.octetsOf
        let found := names.filter fun n =>
          (dotted || !n.startsWith ".") && part.matchesAll n.toList
        found.flatMap fun n => next (front ++ n) true
      | _ => []
    else
      let path := front ++ patternText part
      if part.isEmpty then next path ((s.system.files.stat s.cwd true (Text.textOf front)).isOk)
      else next path ((s.system.files.stat s.cwd false (Text.textOf path)).isOk)

/-- The words of a field: the names of files that its pattern matches, or itself. -/
def wordsOf (s : State) (field : List Atom) : List String :=
  let p := Atom.pattern field
  if p.isOpen && !s.options.contains 'f' then
    match matchesBehind s "" (patternParts p) with
    | [] => [patternText p]
    | found => found.mergeSort fun a b => !(b < a)
  else [patternText p]

/-! ## Words -/

def expandWord (substitute : Option Command → Act String) (word : List Piece) : Act (List String) := do
  let word ← withHome false word.length true word
  let atoms ← expandPieces substitute pieceFuel ⟨false, false⟩ word
  let ifs ← separators
  let s ← get
  return (fieldsOf ifs.toList atoms).flatMap (wordsOf s)

/-- The text that a word stands for where no fields are made. -/
def expandText (substitute : Option Command → Act String) (inValue : Bool) (word : List Piece) :
    Act String := do
  let word ← withHome inValue word.length true word
  return Atom.text (← expandPieces substitute pieceFuel ⟨false, false⟩ word)

def expandPattern (substitute : Option Command → Act String) (word : List Piece) : Act Pattern := do
  let word ← withHome false word.length true word
  return Atom.pattern (← expandPieces substitute pieceFuel ⟨false, false⟩ word)

end Converge.Shell
