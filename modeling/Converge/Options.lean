import Converge.Fault

/-!
# Options of a run

What is fixed for a whole run before it begins: whether results are shown, whether a failure lets
the run go on, and whether each step is announced.
-/

namespace Converge

/-- The options of a run. -/
structure Options where
  debug : Bool
  keepGoing : Bool
  verbose : Bool
deriving DecidableEq, Repr

namespace Options

/-- Nothing is asked for. -/
def default : Options := ⟨false, false, false⟩

instance : Inhabited Options := ⟨default⟩

/-- The name under which problems of options are reported. -/
def title : String := "RunOptions"

/-- A truth value of a table, `false` where it has none. -/
def flag (fields : Table Value) (name : String) : Validation.Checked Bool :=
  match fields.get? name with
  | none => .ok false
  | some v => Validation.atPath [name] (Validation.readTruth v)

def ofTable (fields : Table Value) : Except Validation.Report Options :=
  Validation.reported title
    ((Validation.both (flag fields "debug")
        (Validation.both (flag fields "keep_going") (flag fields "verbose"))).map
      fun (debug, keepGoing, verbose) => ⟨debug, keepGoing, verbose⟩)

end Options

/-- The fields that a value gives to a call: a mapping of texts. -/
def fieldsOf (callee : String) (v : Value) : Except Fault (Table Value) :=
  match v.entries? with
  | some entries =>
    let texts := entries.filterMap fun
      | (.text name, v) => some (name, v)
      | _ => none
    if texts.length = entries.length then .ok (Table.ofList texts)
    else .error (.misuse .fieldName)
  | none => .error (.misuse (.fieldsFromValue callee v.fullTypeName))

def Options.build (v : Value) : Except Fault Options := do
  let fields ← fieldsOf "enforcescript.contracts.RunOptions" v
  (Options.ofTable fields).mapError .invalid

end Converge
