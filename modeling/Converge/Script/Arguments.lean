import Converge.Fault

/-!
# Arguments of a call

A call brings values without names, in order, and values under names. They are matched with the
names that the called takes: each gets at most one value, some get exactly one, and values under
other names are kept apart where the called takes them and are a fault where it does not.
-/

namespace Converge

/-- What can be called: its name in messages, and the names that it takes, of which the first few
are needed. -/
structure Callee where
  name : String
  needed : List String
  optional : List String
  /-- Values under other names are taken. -/
  takesOthers : Bool

namespace Callee

/-- The name of that on which a call is made, which no argument can have. -/
def receiver : String := "self"

/-- The names that are taken, in order. -/
def names (c : Callee) : List String := c.needed ++ c.optional

/-- The words for how many arguments are taken, the receiver counted. -/
def takenWords (c : Callee) : String :=
  let least := c.needed.length + 1
  let most := c.names.length + 1
  (if least = most then toString most else "from " ++ toString least ++ " to " ++ toString most) ++
    " positional arguments"

/-- The first fault of a value under a name: the name has a value already, or is not taken. -/
def namedFault? (c : Callee) (given : List String) (name : String) : Option Misuse :=
  if given.contains name then some (.repeatedArgument c.name name)
  else if c.takesOthers || c.names.contains name then none
  else some (.unknownArgument c.name name)

/-- The values under the names that are taken, and those under other names. -/
def bind (c : Callee) (positional : List Value) (named : List (String × Value)) :
    Except Fault (Table Value × Table Value) :=
  let placed := c.names.zip positional
  let given := receiver :: placed.map Prod.fst
  match named.findSome? fun e => c.namedFault? given e.1 with
  | some misuse => .error (.misuse misuse)
  | none =>
    if c.names.length < positional.length then
      .error (.misuse (.extraArguments c.name c.takenWords (positional.length + 1)))
    else
      let (own, others) := named.partition fun e => c.names.contains e.1
      let values := Table.ofList (placed ++ own)
      match c.needed.filter fun name => !values.contains name with
      | [] => .ok (values, Table.ofList others)
      | missing => .error (.misuse (.missingArguments c.name missing))

end Callee

end Converge
