import Converge.Document.Node
import Converge.Document.Share
import Converge.Text.Base64
import Converge.Text.Case
import Converge.Text.Stream

/-!
# The value of a document

Each node becomes the object that its tag asks for, once, and a collection is filled after every
collection that was met before it. So a collection can hold itself, what is wrong with an outer
collection is found before what is wrong inside it, and of several faults the first in that order is
the one reported. Merging the entries of one mapping into another changes the mapping for all that
comes later.
-/

namespace Converge.Document

/-! ## Scalars -/

def truthOf (s : String) : Except DocumentFault Value :=
  let word := Text.lower s
  match truthWords.lookup word with
  | some b => .ok (.bool b)
  | none => .error (.truthWord word)

/-- The parts of a text between colons. -/
def partsOf (s : List Char) : List (List Char) :=
  match s with
  | [] => [[]]
  | c :: rest =>
    match partsOf rest with
    | [] => [[c]]
    | part :: parts => if c = ':' then [] :: part :: parts else (c :: part) :: parts

/-- The whole number that a text writes to a base. -/
def wholeTo (base : Nat) (s : List Char) : Except DocumentFault Int :=
  (Text.readWhole base (String.ofList s)).mapError .whole

/-- The whole number of a scalar: underscores do not count, `0b`, `0x` and `0` say which base it
has, and colons divide digits to the base 60. -/
def wholeOf (s : String) : Except DocumentFault Value := do
  let chars := s.toList.filter (· != '_')
  let (negative, body) := Text.takeSign chars
  let signed (i : Int) : Value := .int (if negative then -i else i)
  match body with
  | [] => throw .emptyNumber
  | ['0'] => return .int 0
  | '0' :: 'b' :: rest => return signed (← wholeTo 2 rest)
  | '0' :: 'x' :: rest => return signed (← wholeTo 16 rest)
  | '0' :: _ => return signed (← wholeTo 8 body)
  | _ =>
    if body.contains ':' then do
      let parts ← (partsOf body).mapM (wholeTo 10)
      return signed (parts.foldl (fun n part => n * 60 + part) 0)
    else return signed (← wholeTo 10 body)

/-- The double that a text writes. -/
def doubleOf (s : List Char) : Except DocumentFault Double :=
  match Double.read? (String.ofList s) with
  | some d => .ok d
  | none => .error (.fraction (String.ofList s))

/-- Parts to the base 60, the last first, added up with rounding at each step; `weight` is that of
the first, which must be a double. -/
def sumOfParts (sum : Double) (weight : Int) : List Double → Except DocumentFault Double
  | [] => .ok sum
  | d :: rest =>
    match Double.ofInt weight with
    | .finite s m e => sumOfParts (sum.add (d.mul (.finite s m e))) (weight * 60) rest
    | _ => .error .hugeWeight

/-- The number with a fraction of a scalar: underscores do not count, and colons divide parts to the
base 60. -/
def fractionOf (s : String) : Except DocumentFault Value := do
  let chars := Text.lowerChars (s.toList.filter (· != '_'))
  let (negative, body) := Text.takeSign chars
  let signed (d : Double) : Value := .float (if negative then d.neg else d)
  if chars.isEmpty then throw .emptyNumber
  else if body = ['.', 'i', 'n', 'f'] then return signed (.infinite false)
  else if body = ['.', 'n', 'a', 'n'] then return .float .nan
  else if body.contains ':' then do
    let parts ← (partsOf body).mapM doubleOf
    return signed (← sumOfParts (.zero false) 1 parts.reverse)
  else return signed (← doubleOf body)

/-- The millionths of a second that digits after a point write. -/
def microsOf (digits : List Nat) : Nat :=
  Text.ofDigits 10 ((digits ++ List.replicate 6 0).take 6)

/-- The date or moment of a scalar. -/
def timeOf (number : Nat) (s : String) : Except DocumentFault Value :=
  match takeTimestamp (formChars s) with
  | none => .error .notTime
  | some (year, month, day, none) =>
    ((Date.of? year month day).map (.date (some number))).mapError .calendar
  | some (year, month, day, some t) =>
    let offset := t.offset.map fun seconds => seconds * (microsPerSecond : Int)
    ((Moment.of? year month day t.hour t.minute t.second (microsOf t.fraction) offset).map
      (.moment (some number))).mapError .calendar

def bytesOf (s : String) : Except DocumentFault Value :=
  if s.toList.all (·.toNat < 128) then
    match Text.base64Decode? s.toList with
    | some bytes => .ok (.bytes bytes)
    | none => .error .malformed
  else .error .malformed

/-- The value of a scalar's text under a tag; the number is that of the node. -/
def scalarValue (number : Nat) (tag : Tag) (s : String) : Except DocumentFault Value :=
  match tag with
  | .null => .ok .null
  | .truth => truthOf s
  | .whole => wholeOf s
  | .fraction => fractionOf s
  | .binary => bytesOf s
  | .time => timeOf number s
  | .text => .ok (.text s)
  | _ => .error .malformed

/-! ## Objects -/

/-- What a node has become: a value that holds no other, or a collection that is filled by itself. -/
inductive Made where
  | leaf (v : Value)
  | collection
deriving Inhabited

/-- What a collection holds, by the numbers of the nodes. -/
inductive Filling where
  | items (items : List Nat)
  | pairs (pairs : List (Nat × Nat))
  | entries (entries : List (Nat × Nat))
  | members (members : List Nat)
deriving Inhabited

/-- Where the making of objects stands. -/
structure Workshop where
  /-- The nodes, which merging changes. -/
  nodes : Array Node
  /-- What each node has become, if it has. -/
  made : Array (Option Made)
  /-- What each collection holds, once it is filled. -/
  filled : Array (Option Filling)
  /-- The collections that are to be filled, in order. -/
  waiting : List Nat

/-- A making of objects. -/
abbrev Make := StateT Workshop (Except DocumentFault)

namespace Make

def node (number : Nat) : Make Node := do
  return (← get).nodes[number]?.getD default

def tagOf (number : Nat) : Make Tag := do return (← node number).tag

/-- The text of a node that stands for a scalar: its own, or that of the value of its key `=`. -/
def scalarText : (fuel : Nat) → (number : Nat) → Make String
  | 0, _ => throw .endlessText
  | fuel + 1, number => do
    match (← node number).content with
    | .scalar text => return text
    | .sequence _ => throw .malformed
    | .mapping entries =>
      let nodes := (← get).nodes
      match entries.find? fun e => (nodes[e.1]?.getD default).tag = .value with
      | some (_, value) => scalarText fuel value
      | none => throw .malformed

/-- The number of nodes, which bounds every way that passes each node at most once. -/
def count : Make Nat := do return (← get).nodes.size

/-- What the node of a number becomes. -/
def leafOf (number : Nat) : Make Value := do
  let node ← node number
  let text ← scalarText ((← count) + 1) number
  match node.tag, node.content with
  | .time, .mapping _ => throw .timeOfMapping
  | tag, _ => StateT.lift (scalarValue number tag text)

/-- The object of a node: a collection waits to be filled. -/
def object (number : Nat) : Make Made := do
  match ((← get).made[number]?).join with
  | some made => return made
  | none => do
    let made ← match ← tagOf number with
      | .sequence | .mapping | .set | .orderedMap | .pairs => do
        modify fun w => { w with waiting := w.waiting ++ [number] }
        pure Made.collection
      | .other _ | .merge | .value => throw .malformed
      | _ => do pure (Made.leaf (← leafOf number))
    modify fun w => { w with made := w.made.set! number (some made) }
    return made

def objects : List Nat → Make Unit
  | [] => return
  | number :: rest => do
    let _ ← object number
    objects rest

/-! ## Merging -/

/-- A node with another content. -/
def change (number : Nat) (f : Node → Node) : Make Unit :=
  modify fun w => { w with nodes := w.nodes.modify number f }

def entriesOf (number : Nat) : Make (List (Nat × Nat)) := do
  match (← node number).content with
  | .mapping entries => return entries
  | _ => throw .malformed

mutual

/-- The mapping of a number takes in the mappings that its merge keys name; their entries come
before its own. The key `=` becomes text. -/
def merge : (fuel : Nat) → (number : Nat) → Make Unit
  | 0, _ => throw .malformed
  | fuel + 1, number => do
    let _ ← entriesOf number
    let front ← mergeFrom fuel number 0 []
    change number fun
      | ⟨tag, .mapping entries⟩ => ⟨tag, .mapping (front ++ entries)⟩
      | node => node

/-- What the merge keys from an index on bring, after what others brought; each is taken away before
the mapping that it names is merged itself. -/
def mergeFrom : (fuel : Nat) → (number index : Nat) → (front : List (Nat × Nat)) →
    Make (List (Nat × Nat))
  | 0, _, _, _ => throw .malformed
  | fuel + 1, number, index, front => do
    match (← entriesOf number)[index]? with
    | none => return front
    | some (key, value) =>
      match ← tagOf key with
      | .merge => do
        change number fun
          | ⟨tag, .mapping entries⟩ => ⟨tag, .mapping (entries.eraseIdx index)⟩
          | node => node
        match (← node value).content with
        | .mapping _ => do
          merge fuel value
          mergeFrom fuel number index (front ++ (← entriesOf value))
        | .sequence items => do
          let brought ← mergeAll fuel items
          mergeFrom fuel number index (front ++ brought)
        | .scalar _ => throw .malformed
      | .value => do
        change key fun node => { node with tag := .text }
        mergeFrom fuel number (index + 1) front
      | _ => mergeFrom fuel number (index + 1) front

/-- What several mappings bring, the first of them last. -/
def mergeAll : (fuel : Nat) → List Nat → Make (List (Nat × Nat))
  | 0, _ => throw .malformed
  | _ + 1, [] => return []
  | fuel + 1, number :: rest => do
    merge fuel number
    let entries ← entriesOf number
    return (← mergeAll fuel rest) ++ entries

end

/-- More steps than merging can take: each node is passed once for each merge key, and each entry
once for each passing. -/
def mergeBound : Make Nat := do
  let nodes := (← get).nodes
  let size := nodes.foldl (fun n node => match node.content with
    | .scalar _ => n + 1
    | .sequence items => n + items.length + 1
    | .mapping entries => n + entries.length + 1) 1
  return Nat.pow size 3 + 10

/-! ## Filling -/

/-- Two keys are one object, or the same value; what is not a number is one object wherever it is
written in the usual way. -/
def isSameKey (w : Workshop) (a b : Nat) : Bool :=
  let usualNan (n : Nat) : Bool := match w.nodes[n]? with
    | some ⟨.fraction, .scalar text⟩ =>
      (Text.takeSign (Text.lowerChars (text.toList.filter (· != '_')))).2 == ['.', 'n', 'a', 'n']
    | _ => false
  a == b || (usualNan a && usualNan b) ||
    match (w.made[a]?).join, (w.made[b]?).join with
    | some (.leaf x), some (.leaf y) => Value.sameKey x y
    | _, _ => false

/-- The entries with a value for a key: in the place of the same key, which stays, or at the end. -/
def insertEntry (w : Workshop) (key value : Nat) : List (Nat × Nat) → List (Nat × Nat)
  | [] => [(key, value)]
  | (k, v) :: rest =>
    if isSameKey w k key then (k, value) :: rest else (k, v) :: insertEntry w key value rest

/-- The entries of a mapping, whose keys must not be collections. -/
def entries (soFar : List (Nat × Nat)) : List (Nat × Nat) → Make (List (Nat × Nat))
  | [] => return soFar
  | (key, value) :: rest => do
    match ← object key with
    | .collection => throw .malformed
    | .leaf _ => do
      let _ ← object value
      entries (insertEntry (← get) key value soFar) rest

/-- The entries of a mapping after merging. -/
def mapping (number : Nat) : Make (List (Nat × Nat)) := do
  let _ ← entriesOf number
  merge (← mergeBound) number
  entries [] (← entriesOf number)

def pairs : List Nat → Make (List (Nat × Nat))
  | [] => return []
  | number :: rest => do
    match ← entriesOf number with
    | [(key, value)] => do
      objects [key, value]
      return (key, value) :: (← pairs rest)
    | _ => throw .malformed

/-- The numbers that a sequence holds. -/
def itemsOf (number : Nat) : Make (List Nat) := do
  match (← node number).content with
  | .sequence items => return items
  | _ => throw .malformed

/-- What the collection of a number holds. -/
def filling (number : Nat) : Make Filling := do
  match ← tagOf number with
  | .sequence => do
    let items ← itemsOf number
    objects items
    return .items items
  | .set => do return .members ((← mapping number).map Prod.fst)
  | .orderedMap | .pairs => do return .pairs (← pairs (← itemsOf number))
  | _ => do return .entries (← mapping number)

/-- All that waits is filled, and what comes to wait meanwhile. -/
def fillAll : (fuel : Nat) → Make Unit
  | 0 => return
  | fuel + 1 => do
    match (← get).waiting with
    | [] => return
    | number :: rest => do
      modify fun w => { w with waiting := rest }
      let filling ← filling number
      modify fun w => { w with filled := w.filled.set! number (some filling) }
      fillAll fuel

end Make

/-! ## Values -/

namespace Workshop

/-- The value of the node of a number, where the collections of some numbers stand around it. -/
def value (sets : Value.SetOrder) (w : Workshop) : (fuel : Nat) → (around : List Nat) → (number : Nat) → Value
  | 0, _, _ => .null
  | fuel + 1, around, number =>
    let within := number :: around
    match (w.made[number]?).join with
    | some (.leaf v) => v
    | _ =>
      match (w.filled[number]?).join with
      | some (.items items) =>
        if around.contains number then .again number .list
        else .list (some number) (items.map (w.value sets fuel within))
      | some (.pairs pairs) =>
        if around.contains number then .again number .list
        else .list (some number)
          (pairs.map fun (k, v) => .tuple [w.value sets fuel within k, w.value sets fuel within v])
      | some (.entries entries) =>
        if around.contains number then .again number .map
        else .map (some number)
          (entries.map fun (k, v) => (w.value sets fuel within k, w.value sets fuel within v))
      | some (.members members) => .set (some number) (sets.arrange (members.map (w.value sets fuel within)))
      | none => .null

end Workshop

def Graph.value (sets : Value.SetOrder) (g : Graph) : Except DocumentFault Value := do
  let size := g.nodes.size
  let start : Workshop := ⟨g.nodes, .replicate size none, .replicate size none, []⟩
  let ((), w) ← (do
    let _ ← Make.object g.root
    Make.fillAll (size + 1)).run start
  return (w.value sets (size + 1) [] g.root).normalShares

/-- The value of the document of a source; without a document it is nothing. -/
def Source.load (sets : Value.SetOrder) (source : Source) : Except DocumentFault Value := do
  match ← Graph.read? source with
  | none => return .null
  | some graph => graph.value sets

/-- The value of the document that a text holds. -/
def load (sets : Value.SetOrder) (text : String) : Except DocumentFault Value := (Source.ofText text).load sets

/-- The value of the document that the bytes of a file hold, read in portions. -/
def loadBytes (sets : Value.SetOrder) (bytes : ByteArray) : Except DocumentFault Value :=
  let (portions, fault) := Text.Stream.ofBytes bytes
  (Source.ofPortions portions (fault.map .decoding)).load sets

end Converge.Document
