import Converge.Shell.Builtin.Basic

/-!
# Marks of variables

Variables are exported, fixed, taken away, or kept by a function for itself.
-/

namespace Converge.Shell.Builtin

open Act

def nameAndValue (word : String) : String × Option String :=
  let name := String.ofList (word.toList.takeWhile (· ≠ '='))
  match word.toList.dropWhile (· ≠ '=') with
  | _ :: value => (name, some (String.ofList value))
  | [] => (name, none)

def inOrder {α : Type} (entries : List (String × α)) : List (String × α) :=
  entries.mergeSort fun a b => !(b.1 < a.1)

/-- Marks given to variables, perhaps with values; without words those that have the mark are told. -/
def mark (command : String) (exports fixes : Bool) (words : List String) : Act Unit := do
  let (given, words) ← options "p" words
  if words.isEmpty || given.contains 'p' then
    let s ← get
    for (name, v) in inOrder s.bindings.entries do
      if (exports && v.exported) || (fixes && v.fixed) then
        say (command ++ " " ++ name ++ (match v.value with | some t => "=" ++ quoted t | none => "") ++ "\n")
  else
    for word in words do
      let (name, value) := nameAndValue word
      if !isName name then fail (name ++ ": bad variable name")
      if let some value := value then assign name value
      modify fun s =>
        let v := (s.bindings.get? name).getD ⟨none, false, false⟩
        { s with bindings :=
            s.bindings.insert name { v with exported := v.exported || exports, fixed := v.fixed || fixes } }
  settle 0

/-- Variables and functions taken away. -/
def unset (words : List String) : Act Unit := do
  let (given, words) ← options "vf" words
  for name in words do
    if given.contains 'f' then modify fun s => { s with functions := s.functions.erase name }
    else if !isName name then fail (name ++ ": bad variable name")
    else
      match (← get).bindings.get? name with
      | some v =>
        if v.fixed then fail (name ++ ": is read only")
        else modify fun s => { s with bindings := s.bindings.erase name }
      | none => if !given.contains 'v' then modify fun s => { s with functions := s.functions.erase name }
  settle 0

/-- Variables that a function keeps for itself. -/
def localVariables (words : List String) : Act Unit := do
  match (← get).saved with
  | [] => fail "not in a function"
  | saved :: outer =>
    let mut saved := saved
    for word in words do
      let (name, value) := nameAndValue word
      if !isName name then fail (name ++ ": bad variable name")
      if !saved.any fun e => e.1 == name then
        saved := (name, (← get).bindings.get? name) :: saved
      if let some value := value then assign name value
    modify fun s => { s with saved := saved :: outer, status := 0 }

end Converge.Shell.Builtin
