import Converge.Catalog.Order
import Converge.Host.Basic
import Converge.Report

/-!
# Transactions

The resources of a finalized catalog are brought about one after the other in the order of
evaluation. One that depends on a resource that failed or was skipped is skipped itself. What stops
the bringing about of a resource is an event of that resource, and the transaction goes on; only a
fault without a text ends it.

How a resource is brought about is a parameter.
-/

namespace Converge

/-- How resources are brought about: events, or a fault. -/
abbrev Applier (σ : Type) := Resource → (noop : Bool) → Action σ (List Event)

namespace Transaction

variable {σ : Type} [Hosted σ]

/-- How far a transaction is: the report, and the display forms of what failed or was skipped. -/
structure Progress where
  report : Report
  blocked : List String

/-- A resource is brought about in a dry run: as it says itself, or as the transaction is. -/
def isDry (noop : Bool) (r : Resource) : Bool :=
  match r.param? "noop" with
  | none => noop
  | some v => v.isTruthy

def eventsOf (apply : Applier σ) (noop : Bool) (r : Resource) : Action σ (List Event) := do
  match ← (apply r (isDry noop r)).attempt with
  | .ok events => return events
  | .error fault => do
    Action.log .debug (r.display ++ ": apply raised")
    return [⟨"ensure", .failure, ← .ofExcept fault.text⟩]

/-- One resource more. -/
def step (apply : Applier σ) (noop : Bool) (c : Catalog) (p : Progress) (r : Resource) :
    Action σ Progress := do
  if (c.dependenciesOf r).any p.blocked.contains then do
    Action.log .warning (r.display ++ ": Skipping because of failed dependencies")
    return ⟨p.report.add ⟨r.display, [], true⟩, r.display :: p.blocked⟩
  else do
    let events ← eventsOf apply noop r
    events.forM fun e => Action.log .info (r.display ++ "/" ++ e.property ++ ": " ++ e.message)
    let status : Status := ⟨r.display, events, false⟩
    return ⟨p.report.add status, if status.failed then r.display :: p.blocked else p.blocked⟩

/-- The completed report of bringing about the resources of a catalog. -/
def evaluate (apply : Applier σ) (noop : Bool) (c : Catalog) (report : Report) : Action σ Report := do
  let ordered ← .ofExcept c.ordered
  let p ← ordered.foldlM (step apply noop c) ⟨report, []⟩
  return p.report.finalize

end Transaction

end Converge
