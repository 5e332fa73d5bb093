import Converge.Document.Tag
import Converge.Document.Token

/-!
# Nodes

The nodes of a document. Every node has a number, a tag and a content, in which other nodes stand by
their numbers: a reference stands for the node of its anchor, which may be one around it. Positions
that hold nothing hold an empty scalar.
-/

namespace Converge.Document

/-- What a node holds; other nodes are named by their numbers. -/
inductive Content where
  | scalar (text : String)
  | sequence (items : List Nat)
  | mapping (entries : List (Nat × Nat))

structure Node where
  tag : Tag
  content : Content

instance : Inhabited Node := ⟨⟨.null, .scalar ""⟩⟩

/-- Where the reading of nodes stands. -/
structure Reader where
  tokens : List Token
  /-- What is wrong after the last token. -/
  fault : Option DocumentFault
  /-- The nodes so far, each at the place of its number. -/
  nodes : Array Node
  /-- The nodes of the anchors. -/
  anchors : List (String × Nat)
  /-- The meanings of the handles of tags. -/
  handles : List (String × String)

abbrev Read := StateT Reader (Except DocumentFault)

namespace Read

/-- The form is broken here. -/
def malformed {α : Type} : Read α := throw .malformed

/-- The next token. -/
def peek : Read Token := do
  let r ← get
  match r.tokens with
  | t :: _ => return t
  | [] => throw (r.fault.getD .malformed)

/-- The next token is passed. -/
def skip : Read Unit := modify fun r => { r with tokens := r.tokens.tail }

/-- The next token is one of some. -/
def on (ts : List Token) : Read Bool := do return ts.contains (← peek)

/-- The next token is passed if it is the given one; says whether it was. -/
def accept (t : Token) : Read Bool := do
  if (← peek) = t then do
    skip
    return true
  else return false

/-- The next token is the given one, and is passed. -/
def expect (t : Token) : Read Unit := do
  if !(← accept t) then malformed

/-- A new node, known by its number and by its anchor, if it has one. -/
def make (anchor : Option String) (tag : Tag) (content : Content) : Read Nat :=
  modifyGet fun r =>
    let number := r.nodes.size
    let anchors := anchor.toList.map (·, number) ++ r.anchors
    (number, { r with nodes := r.nodes.push ⟨tag, content⟩, anchors })

def complete (number : Nat) (content : Content) : Read Nat := do
  modify fun r => { r with nodes := r.nodes.modify number fun node => { node with content } }
  return number

/-- The scalar of a position that holds nothing. -/
def emptyScalar : Read Nat := make none .null (.scalar "")

/-- A name for the node that follows must be new. -/
def checkAnchor (anchor : Option String) : Read Unit := do
  if let some name := anchor then
    if (← get).anchors.any (·.1 == name) then malformed

def tagName (t : WrittenTag) : Read String := do
  match t.handle with
  | none => return t.suffix
  | some handle =>
    match (← get).handles.lookup handle with
    | some meaning => return meaning ++ t.suffix
    | none => malformed

/-- The anchor and the tag before a node, in either order. -/
def properties : Read (Option String × Option String) := do
  match ← peek with
  | .anchor name => do
    skip
    match ← peek with
    | .tag t => do
      skip
      return (some name, some (← tagName t))
    | _ => return (some name, none)
  | .tag t => do
    skip
    match ← peek with
    | .anchor name => do
      skip
      return (some name, some (← tagName t))
    | _ => return (none, some (← tagName t))
  | _ => return (none, none)

/-- The tag of a scalar: that which is written, or that of its form when it is plain. -/
def scalarTag (tag : Option String) (plain : Bool) (text : String) : Tag :=
  match tag with
  | none => if plain then .ofPlain text else .text
  | some name => if name = "!" then .ofPlain text else .ofName name

/-- The tag of a collection: that which is written, or the usual one. -/
def collectionTag (tag : Option String) (usual : Tag) : Tag :=
  match tag with
  | none => usual
  | some name => if name = "!" then usual else .ofName name

mutual

/-- A node; `inBlock` says whether a block may begin here, and `besideKey` whether a sequence may
stand in the column of its key. A collection has its anchor before what it holds is read. -/
def node : Nat → (inBlock besideKey : Bool) → Read Nat
  | 0, _, _ => malformed
  | fuel + 1, inBlock, besideKey => do
    match ← peek with
    | .reference name => do
      skip
      match (← get).anchors.lookup name with
      | some number => return number
      | none => malformed
    | _ => do
      let (anchor, tag) ← properties
      let token ← peek
      checkAnchor anchor
      let sequence (items : Read (List Nat)) : Read Nat := do
        let number ← make anchor (collectionTag tag .sequence) (.sequence [])
        complete number (.sequence (← items))
      let mapping (entries : Read (List (Nat × Nat))) : Read Nat := do
        let number ← make anchor (collectionTag tag .mapping) (.mapping [])
        complete number (.mapping (← entries))
      /- An anchor or a tag without content names the empty scalar. -/
      let bare : Read Nat :=
        if anchor.isSome || tag.isSome then make anchor (scalarTag tag tag.isNone "") (.scalar "")
        else malformed
      match token with
      | .scalar text plain => do
        skip
        make anchor (scalarTag tag plain text) (.scalar text)
      | .flowSequenceStart => do
        skip
        sequence (flowItems fuel true)
      | .flowMappingStart => do
        skip
        mapping (flowEntries fuel true)
      | .blockEntry => if besideKey then sequence (bareItems fuel) else bare
      | .sequenceStart =>
        if inBlock then do
          skip
          sequence (blockItems fuel)
        else bare
      | .mappingStart =>
        if inBlock then do
          skip
          mapping (blockEntries fuel)
        else bare
      | _ => bare

/-- The node of an entry, which holds nothing before one of some tokens. -/
def nodeUnless : Nat → (inBlock besideKey : Bool) → List Token → Read Nat
  | 0, _, _, _ => malformed
  | fuel + 1, inBlock, besideKey, enders => do
    if ← on enders then emptyScalar else node fuel inBlock besideKey

/-- The value of an entry, which holds nothing without a colon or before one of some tokens. -/
def valueUnless : Nat → (inBlock besideKey : Bool) → List Token → Read Nat
  | 0, _, _, _ => malformed
  | fuel + 1, inBlock, besideKey, enders => do
    if ← accept .value then nodeUnless fuel inBlock besideKey enders else emptyScalar

/-- The items of a sequence with its own column. -/
def blockItems : Nat → Read (List Nat)
  | 0 => malformed
  | fuel + 1 => do
    if ← accept .blockEntry then do
      let item ← nodeUnless fuel true false [.blockEntry, .blockEnd]
      return item :: (← blockItems fuel)
    else do
      expect .blockEnd
      return []

/-- The items of a sequence in the column of its key. -/
def bareItems : Nat → Read (List Nat)
  | 0 => malformed
  | fuel + 1 => do
    if ← accept .blockEntry then do
      let item ← nodeUnless fuel true false [.blockEntry, .key, .value, .blockEnd]
      return item :: (← bareItems fuel)
    else return []

/-- The entries of a mapping in lines. -/
def blockEntries : Nat → Read (List (Nat × Nat))
  | 0 => malformed
  | fuel + 1 => do
    let enders := [Token.key, .value, .blockEnd]
    if ← accept .key then do
      let key ← nodeUnless fuel true true enders
      let value ← valueUnless fuel true true enders
      return (key, value) :: (← blockEntries fuel)
    else do
      expect .blockEnd
      return []

/-- The items of a sequence in brackets; a key among them makes a mapping of one entry. -/
def flowItems : Nat → (first : Bool) → Read (List Nat)
  | 0, _ => malformed
  | fuel + 1, first => do
    if ← accept .flowSequenceEnd then return []
    if !first then expect .flowEntry
    if ← accept .key then do
      let number ← make none .mapping (.mapping [])
      let key ← nodeUnless fuel false false [.value, .flowEntry, .flowSequenceEnd]
      let value ← valueUnless fuel false false [.flowEntry, .flowSequenceEnd]
      let item ← complete number (.mapping [(key, value)])
      return item :: (← flowItems fuel false)
    else if ← accept .flowSequenceEnd then return []
    else do
      let item ← node fuel false false
      return item :: (← flowItems fuel false)

/-- The entries of a mapping in brackets; what stands without a key sign is a key without value. -/
def flowEntries : Nat → (first : Bool) → Read (List (Nat × Nat))
  | 0, _ => malformed
  | fuel + 1, first => do
    if ← accept .flowMappingEnd then return []
    if !first then expect .flowEntry
    if ← accept .key then do
      let key ← nodeUnless fuel false false [.value, .flowEntry, .flowMappingEnd]
      let value ← valueUnless fuel false false [.flowEntry, .flowMappingEnd]
      return (key, value) :: (← flowEntries fuel false)
    else if ← accept .flowMappingEnd then return []
    else do
      let key ← node fuel false false
      let value ← emptyScalar
      return (key, value) :: (← flowEntries fuel false)

end

/-- The handles that always have a meaning. -/
def usualHandles : List (String × String) := [("!", "!"), ("!!", tagRoot)]

/-- The directives before a document: one version at most, of the first major one, and each handle
once. -/
def directives : Nat → (version : Bool) → (handles : List (String × String)) → Read Unit
  | 0, _, _ => malformed
  | fuel + 1, version, handles => do
    match ← peek with
    | .directive d => do
      skip
      match d with
      | .version major =>
        if version || major != 1 then malformed else directives fuel true handles
      | .handle handle meaning =>
        if handles.any (·.1 == handle) then malformed
        else directives fuel version ((handle, meaning) :: handles)
      | .other => directives fuel version handles
    | _ => modify fun r => { r with handles := handles ++ usualHandles }

/-- Marks of the end of a document are passed. -/
def skipEnds : Nat → Read Unit
  | 0 => malformed
  | fuel + 1 => do if ← accept .documentEnd then skipEnds fuel

/-- The start of a document: directives and the mark, or nothing before the first; says whether
there is a mark. -/
def documentStart (fuel : Nat) : Read Bool := do
  match ← peek with
  | .directive _ | .documentStart => do
    directives fuel false []
    expect .documentStart
    return true
  | _ => return false

/-- The node of the only document of a text; none when there is no document. -/
def document (fuel : Nat) : Read (Option Nat) := do
  if ← on [.textEnd] then return none
  let marked ← documentStart fuel
  let root ← match ← peek with
    | .directive _ | .documentStart | .documentEnd | .textEnd =>
      if marked then emptyScalar else malformed
    | _ => node fuel true false
  skipEnds fuel
  if ← on [.textEnd] then return some root
  else do
    let _ ← documentStart fuel
    malformed

end Read

/-- The nodes of a document, each at the place of its number, and the number of the outermost. -/
structure Graph where
  nodes : Array Node
  root : Nat

/-- The nodes of a text; none when the text holds no document. -/
def Graph.read? (source : Source) : Except DocumentFault (Option Graph) :=
  let (tokens, fault) := source.tokens
  let reader : Reader := ⟨tokens, fault, #[], [], Read.usualHandles⟩
  match (Read.document (tokens.length * 3 + 10)).run reader with
  | .ok (root, reader) => .ok (root.map fun root => ⟨reader.nodes, root⟩)
  | .error fault => .error fault

end Converge.Document
