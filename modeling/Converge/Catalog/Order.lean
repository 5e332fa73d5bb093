import Converge.Catalog.Basic

/-!
# Relations and the order of evaluation

A resource names in `require` what must come before it, and in `before` what must come after it.
The order of evaluation takes, again and again, the resource declared first among those whose
dependencies have all been taken; when none is left to take, the others stand on a cycle or depend
on one.
-/

namespace Converge.Catalog

/-! ## Relations -/

def relationItems (r : Resource) (relation : String) : List Value :=
  match r.param? relation with
  | none | some .null => []
  | some v => v.items?.getD [v]

/-- The declared resource that a value names. -/
def target (c : Catalog) (r : Resource) (item : Value) : Except Fault String :=
  match item.display? with
  | none => .error (.catalog (.longTarget r.display))
  | some text =>
    match Ref.parse text with
    | .error fault => .error (.catalog (.badTarget r.display fault))
    | .ok ref =>
      if c.resources.contains ref.display then .ok ref.display
      else .error (.catalog (.missingTarget ref.display r.display))

/-- The declared resources that a relation of a resource names. -/
def targets (c : Catalog) (r : Resource) (relation : String) : Except Fault (List String) :=
  (relationItems r relation).mapM (c.target r)

/-- A name put into a list of names, unless it is there. -/
def insertName (names : List String) (name : String) : List String :=
  if names.contains name then names else names ++ [name]

/-- One resource depends on another from now on. -/
def link (deps : Table (List String)) (dependent dependency : String) : Table (List String) :=
  deps.insert dependent (insertName ((deps.get? dependent).getD []) dependency)

/-- The dependencies with those that one resource brings; it must be valid. -/
def relate (c : Catalog) (deps : Table (List String)) (r : Resource) :
    Except Fault (Table (List String)) := do
  ResourceType.validateResource r
  let required ← c.targets r "require"
  let deps := required.foldl (fun deps t => link deps r.display t) deps
  let followers ← c.targets r "before"
  return followers.foldl (fun deps t => link deps t r.display) deps

/-- No resource depends on another. -/
def unrelated (c : Catalog) : Table (List String) :=
  Table.ofList (c.resources.keys.map fun ref => (ref, []))

/-- The dependencies that all resources bring. -/
def relations (c : Catalog) : Except Fault (Table (List String)) :=
  c.declared.foldlM c.relate c.unrelated

/-! ## Taking names -/

/-- A position put into a queue, where the least stands first. -/
def enqueue (position : Nat) : List Nat → List Nat
  | [] => [position]
  | first :: rest => if position ≤ first then position :: first :: rest else first :: enqueue position rest

/-- Where the taking of names stands. -/
structure Front where
  /-- What each name still waits for. -/
  remaining : Table (List String)
  /-- The positions of the names that can be taken, the least first. -/
  ready : List Nat
  /-- The names that have been taken. -/
  order : List String

namespace Front

/-- What a name still waits for. -/
def waitsFor (f : Front) (ref : String) : List String := (f.remaining.get? ref).getD []

/-- The front before anything is taken: a name without dependencies can be. -/
def start (refs : List String) (deps : Table (List String)) : Front :=
  let free := refs.filter fun ref => ((deps.get? ref).getD []).isEmpty
  ⟨deps, (free.map fun ref => refs.idxOf ref).foldr enqueue [], []⟩

/-- A name waits for another no more; it can be taken when it waits for nothing else. -/
def release (refs : List String) (taken : String) (f : Front) (dependent : String) : Front :=
  let left := (f.waitsFor dependent).filter (· != taken)
  { f with
    remaining := f.remaining.insert dependent left
    ready := if left.isEmpty then enqueue (refs.idxOf dependent) f.ready else f.ready }

/-- The names that depend on one, in order. -/
def dependents (refs : List String) (deps : Table (List String)) (ref : String) : List String :=
  refs.filter fun other => ((deps.get? other).getD []).contains ref

/-- The name of the first position in the queue taken, and those released that depend on it. -/
def advance (refs : List String) (deps : Table (List String)) (f : Front) (position : Nat) (ready : List Nat) : Front :=
  let ref := refs.getD position ""
  (dependents refs deps ref).foldl (release refs ref) { f with ready, order := f.order ++ [ref] }

/-- Names taken, again and again the first of those that can be. -/
def take (refs : List String) (deps : Table (List String)) : (fuel : Nat) → Front → Front
  | 0, f => f
  | fuel + 1, f =>
    match f.ready with
    | [] => f
    | position :: ready => (f.advance refs deps position ready).take refs deps fuel

end Front

/-- The order of evaluation under some dependencies. A name is taken once at most, so that there is
no more to take after as many as there are. -/
def sort (c : Catalog) (deps : Table (List String)) : Except Fault (List String) :=
  let refs := c.resources.keys
  let f := (Front.start refs deps).take refs deps refs.length
  if f.order.length = refs.length then .ok f.order
  else .error (.catalog (.cycle (refs.filter fun ref => !(f.waitsFor ref).isEmpty)))

/-! ## Finalizing -/

/-- The dependencies and the order become known, if every resource is valid, every relation names a
declared resource and no cycle is among them. The dependencies are kept also when a cycle is found. -/
def finalize (c : Catalog) : Except Fault Unit × Catalog :=
  match c.relations with
  | .error fault => (.error fault, c)
  | .ok deps =>
    let related := { c with dependencies := deps }
    match related.sort deps with
    | .error fault => (.error fault, related)
    | .ok order => (.ok (), { related with order := some order })

end Converge.Catalog
