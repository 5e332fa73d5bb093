import Converge.Calendar
import Converge.Number.Decimal
import Converge.Text.Whole

/-!
# Values

What a document can hold, with the texts in which a value is shown in messages: `display?` for a
value on its own and `literal?` for one inside a collection. A value with a number in it that has
too many digits is not shown.

A date, a list, a mapping or a set that stands at several places of one value carries the same
number at each of them (`share`), so that a printer can write it once. A list or a mapping can also
stand inside itself: there it is only said which of the collections around stands there `again`.
`items?` and `entries?` give the parts of a collection as values of their own, in which such a place
holds the whole collection.
-/

namespace Converge

/-- The number of a part that stands at several places. -/
abbrev Share := Option Nat

/-- The kinds of collections that can stand inside themselves. -/
inductive Shape where
  | list
  | map
deriving DecidableEq, Repr

/-- How a collection is shown inside itself. -/
def Shape.text : Shape → String
  | .list => "[...]"
  | .map => "\x7b...\x7d"

/-- A value of a document. -/
inductive Value where
  | null
  | bool (b : Bool)
  | int (i : Int)
  | float (d : Double)
  | text (s : String)
  | bytes (b : ByteArray)
  | date (share : Share) (d : Date)
  | moment (share : Share) (m : Moment)
  | list (share : Share) (items : List Value)
  | tuple (items : List Value)
  | map (share : Share) (entries : List (Value × Value))
  | set (share : Share) (items : List Value)
  /-- The collection of a number, inside itself. -/
  | again (number : Nat) (shape : Shape)
  /-- Something that no document can hold. -/
  | foreign
deriving Inhabited

namespace Value

/-- The text of a truth value. -/
def boolText (b : Bool) : String := if b then "True" else "False"

/-- Parts between brackets, a comma after a single one if `lone` asks for it. -/
def bracketed (first last : String) (lone : Bool) (parts : List String) : String :=
  first ++ ", ".intercalate parts ++ (if lone && parts.length = 1 then "," else "") ++ last

mutual

/-- A value as it is shown inside a collection, where the collections of some numbers stand
around it. -/
def literalIn? (around : List Nat) : Value → Option String
  | null => some "None"
  | bool b => some (boolText b)
  | int i => Text.showWhole? i
  | float d => some d.text
  | text s => some (Text.quote s)
  | bytes b => some (Text.quoteBytes b)
  | date _ d => some d.literal
  | moment _ m => some m.literal
  | list share items =>
    if share.any around.contains then some Shape.list.text
    else (literalsIn? (share.toList ++ around) items).map (bracketed "[" "]" false)
  | tuple items => (literalsIn? around items).map (bracketed "(" ")" true)
  | map share entries =>
    if share.any around.contains then some Shape.map.text
    else (entryLiteralsIn? (share.toList ++ around) entries).map (bracketed "\x7b" "\x7d" false)
  | set _ items =>
    if items.isEmpty then some "set()"
    else (literalsIn? around items).map (bracketed "\x7b" "\x7d" false)
  | again _ shape => some shape.text
  | foreign => some "<object object>"

/-- Every value as it is shown inside a collection. -/
def literalsIn? (around : List Nat) : List Value → Option (List String)
  | [] => some []
  | v :: rest => do
    let first ← literalIn? around v
    return first :: (← literalsIn? around rest)

/-- Every key and value of a mapping, a colon between them. -/
def entryLiteralsIn? (around : List Nat) : List (Value × Value) → Option (List String)
  | [] => some []
  | (k, v) :: rest => do
    let key ← literalIn? around k
    let value ← literalIn? around v
    return (key ++ ": " ++ value) :: (← entryLiteralsIn? around rest)

end

/-- A value as it is shown inside a collection. -/
def literal? (v : Value) : Option String := literalIn? [] v

/-- A value as it is shown on its own. -/
def display? : Value → Option String
  | text s => some s
  | date _ d => some d.text
  | moment _ m => some m.text
  | v => literal? v

/-- The order in which sets list their members. -/
structure SetOrder where
  /-- The members in their order, from the order in which they were put in. -/
  arrange : List Value → List Value
  perm : ∀ items, (arrange items).Perm items

/-- Sets list their members as these were put in. -/
def SetOrder.asPut : SetOrder := ⟨id, fun _ => .refl _⟩

/-! ## Parts of collections -/

mutual

/-- The value with a whole collection at each place where the collection of its number stands
again. -/
def restore (number : Nat) (whole : Value) : Value → Value
  | list share items =>
    if share = some number then list share items else list share (restoreAll number whole items)
  | tuple items => tuple (restoreAll number whole items)
  | map share entries =>
    if share = some number then map share entries
    else map share (restoreEntries number whole entries)
  | again n shape => if n = number then whole else again n shape
  | v => v

/-- The values with a whole collection where it stands again. -/
def restoreAll (number : Nat) (whole : Value) : List Value → List Value
  | [] => []
  | v :: rest => restore number whole v :: restoreAll number whole rest

/-- The keys and values with a whole collection where it stands again. -/
def restoreEntries (number : Nat) (whole : Value) : List (Value × Value) → List (Value × Value)
  | [] => []
  | (k, v) :: rest => (k, restore number whole v) :: restoreEntries number whole rest

end

def items? : Value → Option (List Value)
  | list none items => some items
  | list (some n) items => some (restoreAll n (list (some n) items) items)
  | _ => none

def entries? : Value → Option (List (Value × Value))
  | map none entries => some entries
  | map (some n) entries => some (restoreEntries n (map (some n) entries) entries)
  | _ => none

/-- The items of a list, a tuple or a set. -/
def members? : Value → Option (List Value)
  | tuple items => some items
  | set _ items => some items
  | v => v.items?

/-! ## Kinds and comparisons -/

def typeName : Value → String
  | null => "NoneType"
  | bool _ => "bool"
  | int _ => "int"
  | float _ => "float"
  | text _ => "str"
  | bytes _ => "bytes"
  | date .. => "date"
  | moment .. => "datetime"
  | list .. => "list"
  | tuple .. => "tuple"
  | map .. => "dict"
  | set .. => "set"
  | again _ .list => "list"
  | again _ .map => "dict"
  | foreign => "object"

/-- The name of the kind of a value, with the module that it belongs to. -/
def fullTypeName : Value → String
  | date .. => "datetime.date"
  | moment .. => "datetime.datetime"
  | v => v.typeName

/-- Whether a value counts as something: nothing, false, zero and what is empty do not. -/
def isTruthy : Value → Bool
  | null => false
  | bool b => b
  | int i => i != 0
  | float d => !d.isZero
  | text s => s != ""
  | bytes b => !b.isEmpty
  | list _ items => !items.isEmpty
  | map _ entries => !entries.isEmpty
  | set _ items => !items.isEmpty
  | tuple items => !items.isEmpty
  | date .. | moment .. | again .. | foreign => true

def wholeNumber? : Value → Option Int
  | bool b => some (if b then 1 else 0)
  | int i => some i
  | float d => d.toInt?
  | _ => none

mutual

/-- Two values are the same key: numbers by their value, whatever their kind, and all else by kind
and content. -/
def sameKey : Value → Value → Bool
  | null, null => true
  | text a, text b => a == b
  | bytes a, bytes b => a == b
  | date _ a, date _ b => a == b
  | moment _ a, moment _ b => a.sameAs b
  | float a, float b => a.sameValue b
  | tuple a, tuple b => sameKeys a b
  | a, b => match a.wholeNumber?, b.wholeNumber? with
    | some i, some j => i == j
    | _, _ => false

def sameKeys : List Value → List Value → Bool
  | [], [] => true
  | a :: as, b :: bs => sameKey a b && sameKeys as bs
  | _, _ => false

end

mutual

/-- The collections that could change and so keep a value from being a key. -/
def changeable : Value → List Value
  | tuple items => changeables items
  | list share items => [list share items]
  | map share entries => [map share entries]
  | set share items => [set share items]
  | again number shape => [again number shape]
  | _ => []

/-- The collections that keep values from being keys. -/
def changeables : List Value → List Value
  | [] => []
  | v :: rest => changeable v ++ changeables rest

end

/-- The entries with a value for a key: in the place of the same key, which stays, or at the end. -/
def insertEntry (key value : Value) : List (Value × Value) → List (Value × Value)
  | [] => [(key, value)]
  | (k, v) :: rest =>
    if sameKey k key then (k, value) :: rest else (k, v) :: insertEntry key value rest

/-- The entries of a mapping, each put in after the ones before it. -/
def entriesOf (pairs : List (Value × Value)) : List (Value × Value) :=
  pairs.foldl (fun entries e => insertEntry e.1 e.2 entries) []

/-- The items of a set, each put in unless it is there. -/
def itemsOf (items : List Value) : List Value :=
  items.foldl (fun set v => if set.any (sameKey · v) then set else set ++ [v]) []

end Value

end Converge
