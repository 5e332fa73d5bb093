import Converge.Backend.Basic
import Converge.Catalog.Compile
import Converge.Store

/-!
# Enforcing in this process

A resource is saved through a store, and a block of code is compiled to a catalog, which is then
evaluated. What is wrong with the resource or the block is a failed result.
-/

namespace Converge.Local

variable {σ : Type} [Hosted σ]

/-- What a report says of a resource. -/
def judge (r : Resource) (report : Report) : Enforcement :=
  match report.statuses.get? r.display with
  | none => .refused ("No status reported for " ++ r.display) r
  | some status =>
    if status.failed then .refused ("; ".intercalate status.failureMessages) r else .success r

def enforce (save : Resource → (key : String) → Action σ Report) (r : Resource) :
    Action σ Enforcement := do
  match ← (save r r.ref.key).attempt with
  | .ok report => return judge r report
  | .error (.catalog fault) => return .refused fault.message r
  | .error fault => throw fault

/-- The catalog of a block of code, finalized; the types of virtual resources are logged. -/
def catalogOf (sets : Value.SetOrder) (node : String) (code : Value) : Action σ Catalog := do
  let (passed, compiled) := Catalog.compile sets node true code
  passed.forM fun type => Action.log .debug ("Skipping virtual resources of type " ++ type)
  let (result, c) := (← .ofExcept compiled).finalize
  let () ← .ofExcept result
  return c

/-- What the report of a block says, and the resources of its catalog that are its own. -/
def judgeBlock (c : Catalog) (report : Report) : BlockResult :=
  let failures := report.failedStatuses.map fun s => s.ref ++ ": " ++ "; ".intercalate s.failureMessages
  ⟨failures.isEmpty, failures, c.declared.filter fun r => !builtins.contains r.display⟩

def overallWord (report : Report) : String := (report.overall.map Overall.word).getD "None"

/-- A block of code enforced through its catalog. -/
def applyBlock (apply : Applier σ) (sets : Value.SetOrder) (node : String) (noop : Bool) (code : Value) :
    Action σ BlockResult := do
  match ← (catalogOf sets node code).attempt with
  | .error (.catalog fault) => return .refused [fault.message]
  | .error fault => throw fault
  | .ok c => do
    let report ← Transaction.evaluate apply noop c (.start node)
    let result := judgeBlock c report
    Action.log .debug
      ("Code block for " ++ node ++ " managed " ++ toString result.resources.length ++ " resources (" ++
        overallWord report ++ ")")
    return result

/-- The backends of a node in this process; in a dry run nothing is changed. -/
def backends (sets : Value.SetOrder) (node : String) (noop : Bool) : Backends σ where
  enforce := enforce ((Store.mk node noop).save Store.applier)
  applyBlock := applyBlock Store.applier sets node noop

end Converge.Local
