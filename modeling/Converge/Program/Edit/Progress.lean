import Converge.Program.Edit.Command
import Converge.Program.Lines

/-!
# Commands carried out

The editor keeps a line under edit, a text on hold and what is still to come. `cycle` carries out the
commands on a line, and `run` does so for all lines.
-/

namespace Converge.Program.Edit

/-- A text to which lines are printed. -/
structure Sheet where
  text : String
  /-- The last line lacks its end. -/
  isOpen : Bool

/-- Text behind what is printed, whose last line gets its end. -/
def Sheet.put (s : Sheet) (ending : Char) (text : String) : Sheet :=
  ⟨s.text ++ (if s.isOpen then String.singleton ending else "") ++ text, false⟩

/-- Where editing stands. -/
structure Progress where
  pattern : String
  hold : String
  number : Nat
  /-- The lines that have not been read, each with the name of its file. -/
  left : List (String × String)
  /-- The file of the line. -/
  file : String
  output : Sheet
  /-- What is printed behind the line. -/
  behind : List String
  /-- For each command with a range that is open, its place and where the range ends. -/
  ranges : List (Nat × Option Nat)
  replaced : Bool
  /-- The line has its end. -/
  fed : Bool
  latest : Option Expression
  /-- The status with which editing ends, when it has. -/
  ending : Option Nat
  /-- What is wrong, where editing has ended because of that. -/
  complaint : Option String
  /-- The files that commands read, and the lines of them that are left for single reads. -/
  sources : List (String × String)
  lines : List (String × List String)
  /-- What is put into files. -/
  written : List (String × Sheet)

/-- How lines are edited. -/
structure Setting where
  silent : Bool
  /-- What stands at the end of a line. -/
  ending : Char
  /-- The width of lines that tell others. -/
  width : Nat

/-- What is done behind a command. -/
inductive Next where
  | goOn (place : Nat)
  /-- The line is printed, unless it is not to be, and the next one read. -/
  | finish (shows : Bool)
  /-- The commands begin again without another line. -/
  | again

namespace Progress

/-- Text printed behind the last line. -/
def put (p : Progress) (g : Setting) (s : String) : Progress :=
  { p with output := p.output.put g.ending s }

/-- A line on a sheet, with its end if the line under edit has one. -/
def lineOn (p : Progress) (g : Setting) (sheet : Sheet) (s : String) : Sheet :=
  let sheet := sheet.put g.ending s
  if p.fed then ⟨sheet.text ++ String.singleton g.ending, false⟩ else ⟨sheet.text, true⟩

def putLine (p : Progress) (g : Setting) (s : String) : Progress :=
  { p with output := p.lineOn g p.output s }

def write (p : Progress) (g : Setting) (path text : String) : Progress :=
  if path == "/dev/stdout" then p.putLine g text
  else
    let sheet := (p.written.lookup path).getD ⟨"", false⟩
    { p with written := (path, p.lineOn g sheet text) :: p.written.filter fun w => w.1 != path }

/-- What waits behind the line printed. -/
def flush (p : Progress) (g : Setting) : Progress :=
  let p' := p.behind.foldl (fun (p : Progress) s => p.put g s) p
  { p' with behind := [] }

def expression (p : Progress) (e : Option Expression) : Option Expression := e <|> p.latest

/-- There is no expression that was used last. -/
def lost (p : Progress) : Progress :=
  { p with ending := some 1, complaint := some "no previous regular expression" }

def isAt (p : Progress) (a : Address) : Bool × Progress :=
  match a with
  | .line n => (p.number == n, p)
  | .step first stride =>
    (if stride = 0 then p.number == first else first ≤ p.number && (p.number - first) % stride = 0, p)
  | .last => (p.left.isEmpty, p)
  | .offset _ | .multiple _ => (false, p)
  | .expression e =>
    match p.expression e with
    | none => (false, p.lost)
    | some e => ((e.first? p.pattern.toList.toArray 0).isSome, { p with latest := some e })

/-- The command at a place is meant for the line. -/
def selects (p : Progress) (place : Nat) (c : Command) : Bool × Progress :=
  match c.first, c.second with
  | none, _ => (true, p)
  | some a, none => p.isAt a
  | some a, some b =>
    let without := p.ranges.filter fun r => r.1 != place
    let isEarly := match a with
      | .line 0 => p.number == 1
      | _ => false
    match (p.ranges.find? fun r => r.1 == place), isEarly with
    | some (_, some n), _ =>
      if p.number < n then (true, p) else (p.number == n, { p with ranges := without })
    | some (_, none), _ =>
      let (ends, p) := p.isAt b
      (true, if ends then { p with ranges := without } else p)
    | none, true =>
      let (ends, p) := p.isAt b
      (true, if ends then p else { p with ranges := (place, none) :: without })
    | none, false =>
      let (begins, p) := p.isAt a
      if !begins then (false, p)
      else
        let upTo (n : Nat) : Option (Nat × Option Nat) := if n ≤ p.number then none else some (place, some n)
        let opened : Option (Nat × Option Nat) := match b with
          | .line n => upTo n
          | .offset n => upTo (p.number + n)
          | .multiple n => if n = 0 then none else upTo ((p.number / n + 1) * n)
          | .last => if p.left.isEmpty then none else some (place, none)
          | _ => some (place, none)
        (true, { p with ranges := opened.toList ++ without })

/-! ## Substitution -/

def replacement (s : Array Char) (begun : Nat) (f : Expression.Fit) : List Part → (mode : Char) →
    (once : Char) → List Char
  | [], _, _ => []
  | .case c :: rest, mode, once =>
    if c == 'u' || c == 'l' then replacement s begun f rest mode c else replacement s begun f rest c once
  | part :: rest, mode, once =>
    let cs : List Char := match part with
      | .text c => [c]
      | .group 0 => (s.extract begun f.place).toList
      | .group n => match f.groups.lookup n with
        | some (a, b) => (s.extract a b).toList
        | none => []
      | .case _ => []
    let cased := match mode with
      | 'U' => cs.map Char.toUpper
      | 'L' => cs.map Char.toLower
      | _ => cs
    let cased := match once, cased with
      | 'u', c :: cs => c.toUpper :: cs
      | 'l', c :: cs => c.toLower :: cs
      | _, cs => cs
    cased ++ replacement s begun f rest mode (if cs.isEmpty then once else 'E')

/-- A text with what is found replaced, from a place on; `count` is how many have been found. Whether
any was replaced. -/
def substituted (e : Expression) (parts : List Part) (every : Bool) (nth : Nat) (s : Array Char) :
    (fuel : Nat) → (place count : Nat) → (lastEnd : Option Nat) → List Char × Bool
  | 0, place, _, _ => ((s.extract place s.size).toList, false)
  | fuel + 1, place, count, lastEnd =>
    match e.first? s place with
    | none => ((s.extract place s.size).toList, false)
    | some (a, f) =>
      let front := (s.extract place a).toList
      let isEmpty := f.place = a
      let step : List Char := if isEmpty then (s.extract a (a + 1)).toList else []
      let next := if isEmpty then a + 1 else f.place
      if isEmpty && lastEnd = some a then
        let (rest, more) := if s.size ≤ a then ([], false) else substituted e parts every nth s fuel next count none
        (front ++ step ++ rest, more)
      else if count + 1 < nth then
        let found := (s.extract a f.place).toList
        let (rest, more) :=
          if s.size < next then ([], false) else substituted e parts every nth s fuel next (count + 1) (some f.place)
        (front ++ found ++ step ++ rest, more)
      else
        let made := replacement s a f parts 'E' 'E'
        if every then
          let (rest, _) :=
            if s.size < next then ([], false) else substituted e parts every nth s fuel next (count + 1) (some f.place)
          (front ++ made ++ step ++ rest, true)
        else (front ++ made ++ (s.extract f.place s.size).toList, true)

def substitute (p : Progress) (g : Setting) (t : Substitution) : Progress :=
  match p.expression t.expression with
  | none => p.lost
  | some e =>
    let s := p.pattern.toList.toArray
    let (text, replaced) := substituted e t.parts t.every t.nth s (s.size + 2) 0 0 none
    let p := { p with latest := some e }
    if replaced then
      let p := { p with pattern := String.ofList text, replaced := true }
      let p := if t.shows then p.putLine g p.pattern else p
      match t.file with
      | some path => p.write g path p.pattern
      | none => p
    else p

/-! ## Commands -/

/-- The next line read into the place of the one that is edited. -/
def advance (p : Progress) (g : Setting) : Option Progress :=
  match p.left with
  | [] => none
  | (file, line) :: rest =>
    let fed := line.endsWith (String.singleton g.ending)
    some { p with
      pattern := if fed then String.ofList line.toList.dropLast else line
      left := rest, number := p.number + 1, fed, file }

/-- A text with a line's end and another behind it. -/
def joined (g : Setting) (a b : String) : String := a ++ String.singleton g.ending ++ b

def firstLine (g : Setting) (s : String) : String := String.ofList (s.toList.takeWhile (· ≠ g.ending))

/-- How a character is told that may not be seen. -/
def shownForm (c : Char) : String :=
  match c with
  | '\\' => "\\\\"
  | '\n' => "\\n"
  | c =>
    if isHidden c then hiddenForm c
    else if c.toNat < 128 then String.singleton c
    else String.join ((Text.octetsOf (String.singleton c)).toList.map hiddenForm)

/-- A text with all that cannot be seen, on lines of a width; a width of at most one is none. -/
def listed (width : Nat) (s : String) : String :=
  let step (state : String × Nat) (form : String) : String × Nat :=
    if 1 < width && width - 1 < state.2 + form.length then (state.1 ++ "\\\n" ++ form, form.length)
    else (state.1 ++ form, state.2 + form.length)
  ((s.toList.map shownForm).foldl step ("", 0)).1 ++ "$\n"

/-- A command without an argument. -/
def simple (p : Progress) (g : Setting) (place : Nat) (letter : Char) : Progress × Next :=
  let on (p : Progress) : Progress × Next := (p, .goOn (place + 1))
  match letter with
  | '=' => on (p.put g (toString p.number ++ "\n"))
  | 'F' => on (p.put g (p.file ++ "\n"))
  | 'd' => (p, .finish false)
  | 'D' =>
    if p.pattern.contains g.ending then
      ({ p with pattern := String.ofList ((p.pattern.toList.dropWhile (· ≠ g.ending)).drop 1) }, .again)
    else (p, .finish false)
  | 'g' => on { p with pattern := p.hold }
  | 'G' => on { p with pattern := joined g p.pattern p.hold }
  | 'h' => on { p with hold := p.pattern }
  | 'H' => on { p with hold := joined g p.hold p.pattern }
  | 'x' => on { p with pattern := p.hold, hold := p.pattern }
  | 'p' => on (p.putLine g p.pattern)
  | 'P' => on (p.put g (firstLine g p.pattern ++ String.singleton g.ending))
  | 'z' => on { p with pattern := "" }
  | 'n' =>
    let shown := (if g.silent then p else p.putLine g p.pattern).flush g
    match shown.advance g with
    | some p => on p
    | none => ({ shown with ending := some 0 }, .finish false)
  | 'N' =>
    match (p.flush g).advance g with
    | some q => on { q with pattern := joined g p.pattern q.pattern }
    | none => (p, .finish true)
  | _ => on p

def carryOut (p : Progress) (g : Setting) (all : List Command) (place : Nat) (c : Command) :
    Progress × Next :=
  let on (p : Progress) : Progress × Next := (p, .goOn (place + 1))
  let (meant, p) := p.selects place c
  if meant == c.turned then
    match c.verb with
    | .group behind => (p, .goOn behind)
    | _ => on p
  else match c.verb with
    | .substitute t => on (p.substitute g t)
    | .exchange pairs => on { p with pattern := p.pattern.map fun c => (pairs.lookup c).getD c }
    | .append text => on { p with behind := p.behind ++ [text] }
    | .insert text => on (if text == "" then p else p.put g text)
    | .replace text =>
      let isLast := c.second.isNone || c.turned || !p.ranges.any fun r => r.1 == place
      (if isLast then p.put g text else p, .finish false)
    | .read path =>
      match p.sources.lookup path with
      | some text => on { p with behind := p.behind ++ [text] }
      | none => on p
    | .readLine path =>
      match p.lines.lookup path with
      | some (line :: rest) =>
        on { p with
          behind := p.behind ++ [line], lines := (path, rest) :: p.lines.filter fun l => l.1 != path }
      | _ => on p
    | .write path whole => on (p.write g path (if whole then p.pattern else firstLine g p.pattern))
    | .list width => on (p.put g (listed (width.getD g.width) p.pattern))
    | .group _ | .close | .label _ => on p
    | .branch letter name =>
      let goes := letter == 'b' || (letter == 't') == p.replaced
      let p := if letter == 'b' then p else { p with replaced := false }
      if !goes then on p
      else if name == "" then (p, .goOn all.length)
      else
        (p, .goOn ((all.findIdx? fun c => match c.verb with
          | .label n => n == name
          | _ => false).getD all.length))
    | .quit silently status => ({ p with ending := some status }, .finish !silently)
    | .simple letter => p.simple g place letter

/-- The commands from a place on carried out on the line. -/
def cycle (g : Setting) (all : List Command) : (fuel : Nat) → (place : Nat) → Progress → Progress
  | 0, _, p => p
  | fuel + 1, place, p =>
    let finish (p : Progress) (shows : Bool) : Progress :=
      (if shows && !g.silent then p.putLine g p.pattern else p).flush g
    match all[place]? with
    | none => finish p true
    | some c =>
      match p.carryOut g all place c with
      | (p, next) =>
        if p.complaint.isSome then p
        else match next with
          | .goOn next => cycle g all fuel next p
          | .finish shows => finish p shows
          | .again => cycle g all fuel 0 (p.flush g)

/-- More fuel than the commands for a line need that come to an end. -/
def cycleFuel : Nat := 100000

/-- All lines edited. -/
def run (g : Setting) (all : List Command) : (fuel : Nat) → Progress → Progress
  | 0, p => p
  | fuel + 1, p =>
    if p.ending.isSome then p
    else match { p with replaced := false : Progress }.advance g with
      | none => p
      | some p => run g all fuel (cycle g all cycleFuel 0 p)

/-- Lines of files edited from their start, behind what was edited before. -/
def edit (p : Progress) (g : Setting) (all : List Command) (lines : List (String × String)) : Progress :=
  let begun := { p with left := lines, number := 0, output := ⟨"", false⟩ }
  let early := all.filterMap fun c => match c.first, c.verb with
    | some (.line 0), .read path => p.sources.lookup path
    | _, _ => none
  run g all (lines.length + 1) (if lines.isEmpty then begun else { begun with output := ⟨String.join early, false⟩ })

/-- An editor before its first line, with the files that commands read. -/
def fresh (sources : List (String × String)) : Progress :=
  { pattern := "", hold := "", number := 0, left := [], file := "", output := ⟨"", false⟩, behind := []
    ranges := [], replaced := false, fed := true, latest := none, ending := none, complaint := none
    sources, lines := sources.map fun s => (s.1, linesOf s.2), written := [] }

end Progress

end Converge.Program.Edit
