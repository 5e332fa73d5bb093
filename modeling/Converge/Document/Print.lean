import Converge.Document.Fault
import Converge.Document.Share
import Converge.Document.Sheet

/-!
# Writing a value as a document

Mappings and sequences are written in lines, empty ones in brackets. A part that stands at several
places is written at the first under a name, and referred to by it at the others.
-/

namespace Converge.Document

/-- The parts that have been met, and those that have been met again, in the order of that. -/
structure Meetings where
  met : List Nat
  again : List Nat

/-- A part is met: says whether its content is to be gone through, which is when it is new. -/
def Meetings.meet (m : Meetings) (share : Share) : Bool × Meetings :=
  match share with
  | none => (true, m)
  | some n =>
    if m.met.contains n then
      (false, if m.again.contains n then m else { m with again := m.again ++ [n] })
    else (true, { m with met := n :: m.met })

mutual

/-- The meetings on a way through a value in the order of writing. -/
def meetings (m : Meetings) : Value → Meetings
  | .date s _ => (m.meet s).2
  | .moment s _ => (m.meet s).2
  | .list s items => if (m.meet s).1 then meetingsAll (m.meet s).2 items else (m.meet s).2
  | .tuple items => meetingsAll m items
  | .map s entries => if (m.meet s).1 then meetingsEntries (m.meet s).2 entries else (m.meet s).2
  | .set s items => if (m.meet s).1 then meetingsAll (m.meet s).2 items else (m.meet s).2
  | .again n _ => (m.meet (some n)).2
  | _ => m

def meetingsAll (m : Meetings) : List Value → Meetings
  | [] => m
  | v :: rest => meetingsAll (meetings m v) rest

/-- The meetings on a way through keys and values. -/
def meetingsEntries (m : Meetings) : List (Value × Value) → Meetings
  | [] => m
  | (k, v) :: rest => meetingsEntries (meetings (meetings m k) v) rest

end

mutual

/-- Why a document cannot hold a value: the first fault in the order of writing. -/
def check : Value → Except DocumentFault Unit
  | .foreign => .error .malformed
  | .int i => if (Text.showWhole? i).isSome then .ok () else .error .longNumber
  | .list _ items => checkAll items
  | .tuple items => checkAll items
  | .map _ entries => checkEntries entries
  | .set _ items => checkAll items
  | _ => .ok ()

/-- Why a document cannot hold values. -/
def checkAll : List Value → Except DocumentFault Unit
  | [] => .ok ()
  | v :: rest => do
    check v
    checkAll rest

/-- Why a document cannot hold keys and values. -/
def checkEntries : List (Value × Value) → Except DocumentFault Unit
  | [] => .ok ()
  | (k, v) :: rest => do
    check k
    check v
    checkEntries rest

end

/-- The sheet, and the named parts that stand on it. -/
structure Writing where
  sheet : Sheet
  /-- The parts with a name; the place in the list is the number in the name. -/
  named : List Nat
  placed : List Nat

/-- Where a node stands. -/
inductive Position where
  | root
  | item
  | key
  | value
deriving DecidableEq

namespace Writing

/-- The writing with a change to its sheet. -/
def on (w : Writing) (f : Sheet → Sheet) : Writing := { w with sheet := f w.sheet }

def nameOf? (w : Writing) (share : Share) : Option String :=
  share.bind fun n => (w.named.idxOf? n).map fun i => "id" ++ padded 3 (i + 1)

/-- The part stands on the sheet. -/
def isPlaced (w : Writing) (share : Share) : Bool :=
  share.any w.placed.contains

/-- A part is written: by its name when it stands on the sheet, or else its name, if it has one, and
its content. -/
def part (w : Writing) (share : Share) (content : Writing → Writing) : Writing :=
  match w.nameOf? share with
  | none => content w
  | some name =>
    if w.isPlaced share then w.on (·.sign ("*" ++ name))
    else content { w.on (·.sign ("&" ++ name)) with placed := share.toList ++ w.placed }

/-- The column of what is nested in a block, where the block has a column of its own. -/
def nested (indent : Option Nat) : Nat :=
  match indent with
  | none => 0
  | some n => n + Sheet.tab

/-- A scalar with the name of its tag, where that is not evident. -/
def scalar (w : Writing) (indent : Option Nat) (position : Position) (x : Written) : Writing :=
  let within := match indent with
    | none => Sheet.tab
    | some n => n + Sheet.tab
  let asKey := position == .key
  let plain := x.style asKey == .plain
  let w := if if plain then x.evident else x.tag = .text then w else w.on (·.sign x.sign)
  let plainRoot := position == .root && plain
  let w := w.on (·.scalar within asKey x)
  if plainRoot then w.on fun s => { s with unfinished := true } else w

/-- A scalar fits before its colon: with its name and tag it is short, on one line and not empty. -/
def isShortKey (x : Written) (nameLength : Nat) : Bool :=
  nameLength + x.sign.length + x.text.length < 128 && !x.text.isEmpty && !isMultiline x.text

/-- A key fits before its colon. -/
def isSimpleKey (w : Writing) (v : Value) : Bool :=
  let share := match v with
    | .date s _ => s
    | .moment s _ => s
    | _ => none
  match w.nameOf? share, Written.of? v with
  | some name, some x => w.isPlaced share || isShortKey x name.length
  | none, some x => isShortKey x 0
  | _, none => match v with
    | .tuple items => items.isEmpty
    | _ => false

/-- The column of the items of a sequence: that of the key where it is the value of one. -/
def itemColumn (w : Writing) (indent : Option Nat) (position : Position) : Nat :=
  match indent with
  | some n => if position == .value && !w.sheet.fresh then n else n + Sheet.tab
  | none => 0

mutual

/-- A value at a position in a block with a column. -/
def value (indent : Option Nat) (position : Position) (v : Value) (w : Writing) : Writing :=
  match v with
  | .list share items =>
    w.part share fun w =>
      if items.isEmpty then w.on fun s => (s.sign "[").tightSign "]"
      else elements (w.itemColumn indent position) items w
  | .tuple items =>
    if items.isEmpty then w.on fun s => (s.sign "[").tightSign "]"
    else elements (w.itemColumn indent position) items w
  | .map share entries =>
    w.part share fun w =>
      if entries.isEmpty then w.on fun s => (s.sign "\x7b").tightSign "\x7d"
      else pairs (nested indent) entries w
  | .set share items =>
    w.part share fun w =>
      let w := w.on (·.sign "!!set")
      if items.isEmpty then w.on fun s => (s.sign "\x7b").tightSign "\x7d"
      else members (nested indent) items w
  | .date share d =>
    w.part share fun w => match Written.of? (.date share d) with
      | some x => w.scalar indent position x
      | none => w
  | .moment share m =>
    w.part share fun w => match Written.of? (.moment share m) with
      | some x => w.scalar indent position x
      | none => w
  | .again number _ => w.part (some number) id
  | v => match Written.of? v with
    | some x => w.scalar indent position x
    | none => w

/-- The items of a sequence, each after a dash. -/
def elements (column : Nat) (items : List Value) (w : Writing) : Writing :=
  match items with
  | [] => w
  | v :: rest =>
    elements column rest
      (value (some column) .item v (w.on fun s => (s.indentTo column).indentSign "-"))

/-- The entries of a mapping, each key before its colon or, where it is long, after a question
mark. -/
def pairs (column : Nat) (entries : List (Value × Value)) (w : Writing) : Writing :=
  match entries with
  | [] => w
  | (k, v) :: rest =>
    let w := w.on (·.indentTo column)
    let w :=
      if w.isSimpleKey k then
        value (some column) .value v ((value (some column) .key k w).on (·.tightSign ":"))
      else
        let w := value (some column) .value k (w.on (·.indentSign "?"))
        value (some column) .value v (w.on fun s => (s.indentTo column).indentSign ":")
    pairs column rest w

/-- The members of a set, each as a key without a value. -/
def members (column : Nat) (items : List Value) (w : Writing) : Writing :=
  match items with
  | [] => w
  | k :: rest =>
    let w := w.on (·.indentTo column)
    let w :=
      if w.isSimpleKey k then (value (some column) .key k w).on (·.tightSign ":")
      else
        let w := value (some column) .value k (w.on (·.indentSign "?"))
        w.on fun s => (s.indentTo column).indentSign ":"
    let nothing : Written := ⟨"null".toList, .null, true, false⟩
    members column rest (w.scalar (some column) .value nothing)

end

end Writing

/-- The end of the last line, and the mark of the end where the text could go on. -/
def finish (s : Sheet) : Sheet :=
  let marked := s.unfinished
  let s := s.indentTo 0
  if marked then (s.sign "...").indentTo 0 else s

/-- A value as a document. -/
def dump (v : Value) : Except DocumentFault String := do
  check v
  let named := (meetings ⟨[], []⟩ v).again
  let w := Writing.value none .root v ⟨.blank, named, []⟩
  return String.ofList (finish w.sheet).written.reverse

end Converge.Document
