import Converge.Document.Load
import Converge.Resource

/-!
# Instructions

A script as a document is a list of records, each of which asks for a resource or for a block of
code. All of them are judged before any is carried out.
-/

namespace Converge

/-- A block of code: a text, or the mapping that the text would be read as. -/
inductive Code where
  | text (s : String)
  | mapping (entries : Parameters)

def Code.toValue : Code → Value
  | text s => .text s
  | mapping entries => .map none (entries.entries.map fun e => (.text e.1, e.2))

/-- What a record asks for. -/
inductive Instruction where
  | resource (type name : String) (params : Option Parameters)
  | block (code : Code)

namespace Instruction

open Validation

/-- The words for what a record asks for. -/
def calls : List String := ["resource", "apply"]

/-- The entry of a record under a text. -/
def entry? (entries : List (Value × Value)) (name : String) : Option Value :=
  (entries.find? fun e => match e.1 with
    | .text s => s == name
    | _ => false).map Prod.snd

/-- The field that a record must have. -/
def need {α : Type} (path : List String) (entries : List (Value × Value)) (name : String)
    (read : List String → Value → Checked α) : Checked α :=
  match entry? entries name with
  | none => .error [⟨path ++ [name], .missing⟩]
  | some v => read (path ++ [name]) v

def textAt (path : List String) (v : Value) : Checked String := atPath path (readText v)

/-- The parameters of a record, which may be left out. -/
def readParams (path : List String) (entries : List (Value × Value)) : Checked (Option Parameters) :=
  match entry? entries "params" with
  | none | some .null => .ok none
  | some v => (readTable (path ++ ["params"]) v).map some

/-- A record that asks for a resource. -/
def readResource (path : List String) (entries : List (Value × Value)) : Checked Instruction :=
  (both (need path entries "type" textAt)
      (both (need path entries "name" textAt) (readParams path entries))).map
    fun (type, name, params) => resource type name params

/-- A block of code: a text or a mapping; what is neither is reported as both. -/
def readCode (path : List String) (v : Value) : Checked Code :=
  match readText v with
  | .ok s => .ok (.text s)
  | .error cause =>
    match readTable (path ++ ["dict[str,any]"]) v with
    | .ok table => .ok (.mapping table)
    | .error problems => .error (⟨path ++ ["str"], cause⟩ :: problems)

/-- A record that asks for a block of code. -/
def readBlock (path : List String) (entries : List (Value × Value)) : Checked Instruction :=
  (need path entries "code" readCode).map block

/-- The record at a place of the list. -/
def readRecord (index : Nat) (v : Value) : Checked Instruction :=
  let path := [toString index]
  match v.entries? with
  | some entries =>
    match entry? entries "call" with
    | none => .error [⟨path, .noKind "call"⟩]
    | some (.text "resource") => readResource (path ++ ["resource"]) entries
    | some (.text "apply") => readBlock (path ++ ["apply"]) entries
    | some kind =>
      let shown := Text.withoutSurrogates (kind.display?.getD (unshown kind))
      .error [⟨path, .unknownKind shown "call" calls⟩]
  | none => .error [⟨path, .fields⟩]

/-- The records of a value; one that counts as nothing has none. -/
def items? (v : Value) : Option (List Value) :=
  if v.isTruthy then v.members? else some []

/-- The instructions of a value, or the report of everything that is wrong with it. -/
def ofValue (v : Value) : Except Validation.Report (List Instruction) :=
  reported "list[tagged-union[ResourceCall,ApplyCall]]" <|
    match items? v with
    | none => .error [⟨[], .list⟩]
    | some items => each (fun (item, i) => readRecord i item) items.zipIdx

end Instruction

end Converge
