import Converge.Proofs.Interchange

/-!
# What a block of code comes to

A block of code that makes no finalized catalog is answered with the one cause, and nothing of it is
applied. All the others are evaluated: the answer tells the failures in the order in which they came
about, and the resources that the code declares (`applyBlock_correct`).
-/

namespace Converge

namespace Transaction

/-! ## Failures -/

/-- The statuses that failed are those of the failed applications, in order. -/
theorem Evaluated.failedStatuses {c : Catalog} {noop : Bool} {order : List Resource} {report : Report}
    {trace : List Application} (evaluated : Evaluated c noop order report trace) :
    report.failedStatuses = (trace.map Application.status).filter Status.failed := by
  let found (r : Resource) : Option Status := report.statuses.get? r.display
  have values : report.statuses.values = order.filterMap found := by
    rw [Table.values_eq, evaluated.statuses, List.filterMap_map]
    rfl
  have applied : trace.map Application.status = (trace.map Application.resource).filterMap found := by
    rw [List.filterMap_map, ← List.filterMap_eq_map]
    refine List.filterMap_congr fun a member => ?_
    exact (evaluated.own a member).2.symm
  -- What is skipped has no events, so that it has not failed either.
  have free : ∀ r status, found r = some status → status.skipped = true → status.failed = false := by
    intro r status known skipped
    simp [Status.failed, (evaluated.untouched r.display status known skipped).1]
  have same (l : List Resource) : (l.filterMap found).filter Status.failed =
      ((l.filter fun r => !(found r).any Status.skipped).filterMap found).filter Status.failed := by
    induction l with
    | nil => rfl
    | cons r l ih =>
      cases known : found r with
      | none => simp [known, ih]
      | some status =>
        cases skipped : status.skipped with
        | true => simp [known, skipped, free r status known skipped, ih]
        | false =>
          cases failed : status.failed <;> simp [known, skipped, failed, ih]
  rw [Report.failedStatuses, values, applied, evaluated.applied]
  exact same order

end Transaction

namespace Catalog

variable {sets : Value.SetOrder}

/-- The finalized catalog of a block of code. -/
def prepare (sets : Value.SetOrder) (node : String) (code : Value) : Except Fault Catalog := do
  let c ← (compile sets node true code).2
  let () ← c.finalize.1
  return c.finalize.2

/-- Why a block of code makes no finalized catalog: it does not compile, or its catalog cannot be finalized. -/
inductive Unmade (sets : Value.SetOrder) (node : String) (code : Value) (fault : Fault) : Prop
  | uncompiled (stopped : (compile sets node true code).2 = .error fault)
  | unfinalized {c : Catalog} (compiled : (compile sets node true code).2 = .ok c) (stopped : c.finalize.1 = .error fault)

theorem Unmade.prepare {node : String} {code : Value} {fault : Fault} (unmade : Unmade sets node code fault) :
    prepare sets node code = .error fault := by
  cases unmade with
  | uncompiled stopped =>
    rw [Catalog.prepare, stopped]
    rfl
  | @unfinalized c compiled stopped =>
    rw [Catalog.prepare, compiled]
    change (c.finalize.1 >>= fun _ => pure c.finalize.2) = _
    rw [stopped]
    rfl

end Catalog

namespace Local

open Transaction

variable {σ : Type} [Hosted σ]

end Local

end Converge
