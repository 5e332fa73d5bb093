import Converge.Catalog.Order
import Converge.Document.Load

/-!
# From a block of code to a catalog

A block of code is a document that maps types to names and names to parameters. A type behind an
`@` declares virtual resources, which are passed over.
-/

namespace Converge

/-- The resources of every catalog, as types and names. -/
def scaffoldingRefs : List Ref :=
  [{ type := "stage", name := "main" }, { type := "class", name := "Settings" },
    { type := "class", name := "Main" }, { type := "schedule", name := "hourly" },
    { type := "schedule", name := "daily" }, { type := "schedule", name := "weekly" },
    { type := "schedule", name := "monthly" }, { type := "schedule", name := "never" },
    { type := "filebucket", name := "main" }]

/-- The display forms of the resources of every catalog. -/
def builtins : List String := scaffoldingRefs.map Ref.display

namespace Catalog

/-- The catalog of a node with the resources of every catalog. -/
def scaffold (node : String) : Catalog :=
  { empty node with
    resources := Table.ofList (scaffoldingRefs.map fun ref => (ref.display, ⟨ref, ∅⟩)) }

/-- The catalog with the resource that an entry declares under a type. -/
def addEntry (typeName : String) (c : Catalog) (entry : Value × Value) : Except Fault Catalog := do
  let name ← entry.1.shown
  match Resource.build (.text typeName) (.text name) entry.2 with
  | .error report => throw (.catalog (.invalidResource typeName name report))
  | .ok r => c.extend r

/-- The catalog with the resources that a type maps names to. -/
def addType (c : Catalog) (typeName : String) (entries : Value) : Except Fault Catalog := do
  let _ ← ResourceType.get (Text.lower typeName)
  match entries, entries.entries? with
  | .null, _ => return c
  | _, some entries => entries.foldlM (addEntry typeName) c
  | _, none => throw (.catalog (.entriesNotMapping typeName))

/-- The catalog with the resources of several types, and the types of virtual resources that were
passed over. -/
def addTypes (c : Catalog) : List (Value × Value) → List String × Except Fault Catalog
  | [] => ([], .ok c)
  | (key, entries) :: rest =>
    match key.shown with
    | .error fault => ([], .error fault)
    | .ok typeName =>
      match typeName.toList with
      | '@' :: virtualType =>
        let (passed, result) := addTypes c rest
        (String.ofList virtualType :: passed, result)
      | _ =>
        match c.addType typeName entries with
        | .error fault => ([], .error fault)
        | .ok c => addTypes c rest

/-- The catalog of a document's value, and the types of virtual resources that were passed over. -/
def ofValue (node : String) (scaffolding : Bool) (data : Value) :
    List String × Except Fault Catalog :=
  let start := if scaffolding then scaffold node else empty node
  match data, data.entries? with
  | .null, _ => ([], .ok start)
  | _, some entries => start.addTypes entries
  | _, none => ([], .error (.catalog .codeNotMapping))

/-- The document of a block of code. -/
def readCode (sets : Value.SetOrder) (code : Value) : Except Fault Value :=
  match code with
  | .text s => match Document.load sets s with
    | .ok data => .ok data
    | .error fault =>
      if fault.isMalformed then .error (.catalog (.unreadableCode fault)) else .error (.document fault)
  | v => .error (.catalog (.codeNotText v.typeName))

/-- The catalog of a block of code, not finalized, and the types of virtual resources that were
passed over. -/
def compile (sets : Value.SetOrder) (node : String) (scaffolding : Bool) (code : Value) :
    List String × Except Fault Catalog :=
  match readCode sets code with
  | .error fault => ([], .error fault)
  | .ok data => ofValue node scaffolding data

end Catalog

end Converge
