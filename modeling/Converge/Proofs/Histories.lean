import Converge.Proofs.Finalize

/-!
# Histories of catalogs

A catalog is changed by adding resources and by finalizing, in any order, and each of these calls may
be refused. Whatever the calls were, the catalog holds the resources whose adding succeeded, in that
order; it has an order exactly when it was finalized after the last of them, and this order and the
dependencies are always those of its present resources (`history_correct`).
-/

namespace Converge.Catalog

/-- A call that changes a catalog. -/
inductive Edit where
  | add (r : Resource)
  | finalize

/-- How a call on a catalog ends, and the catalog after it. -/
def Edit.on (c : Catalog) : Edit → Except Fault Unit × Catalog
  | .add r => c.add r
  | .finalize => c.finalize

/-- A catalog with the calls that were made on it and how each of them ended. -/
structure History where
  calls : List (Edit × Except Fault Unit)
  catalog : Catalog

def History.next (h : History) (e : Edit) : History :=
  ⟨h.calls ++ [(e, (e.on h.catalog).1)], (e.on h.catalog).2⟩

/-- The history of the catalog of a node on which some calls are made one after the other. -/
def history (node : String) (edits : List Edit) : History := edits.foldl History.next ⟨[], empty node⟩

def added? : Edit × Except Fault Unit → Option Resource
  | (.add r, .ok ()) => some r
  | _ => none

/-- Some call has finalized, and no resource has been added since. -/
def Current (calls : List (Edit × Except Fault Unit)) : Prop :=
  ∃ before later, calls = before ++ (.finalize, .ok ()) :: later ∧ ∀ call ∈ later, added? call = none

/-! ## One call -/

theorem current_snoc {calls : List (Edit × Except Fault Unit)} {call : Edit × Except Fault Unit} :
    Current (calls ++ [call]) ↔ call = (.finalize, .ok ()) ∨ Current calls ∧ added? call = none := by
  constructor
  · rintro ⟨before, later, split, none⟩
    rcases List.eq_nil_or_concat later with rfl | ⟨later, last, rfl⟩
    · obtain ⟨-, same⟩ := List.append_inj' split rfl
      exact .inl (List.singleton_inj.mp same)
    · rw [List.concat_eq_append] at split none
      have regrouped : calls ++ [call] = (before ++ (.finalize, .ok ()) :: later) ++ [last] := by simpa using split
      obtain ⟨rfl, same⟩ := List.append_inj' regrouped rfl
      obtain rfl := List.singleton_inj.mp same
      exact .inr ⟨⟨before, later, rfl, fun other member => none other (by simp [member])⟩, none call (by simp)⟩
  · rintro (rfl | ⟨⟨before, later, rfl, none⟩, quiet⟩)
    · exact ⟨calls, [], rfl, by simp⟩
    · refine ⟨before, later ++ [call], by simp, fun other member => ?_⟩
      rcases List.mem_append.mp member with earlier | last
      · exact none other earlier
      · rwa [List.mem_singleton.mp last]

/-- Whether a resource is refused depends on the display forms alone. -/
theorem add_refused_iff {c : Catalog} (keyed : c.Keyed) {r : Resource} {fault : Fault} :
    (c.add r).1 = .error fault ↔
      r.display ∈ c.declared.map Resource.display ∧ fault = .catalog (.duplicate r.display) := by
  rw [← keyed.keys]
  by_cases known : r.display ∈ c.resources.keys
  · simp [add_of_mem known, known, eq_comm]
  · simp [add_of_not_mem known, known]

/-- A resource that is refused leaves the catalog as it was. -/
theorem add_of_refused {c : Catalog} {r : Resource} {fault : Fault} (refused : (c.add r).1 = .error fault) :
    (c.add r).2 = c := by
  by_cases known : r.display ∈ c.resources.keys
  · rw [add_of_mem known]
  · rw [add_of_not_mem known] at refused
    cases refused

/-- A finalization that fails leaves the order, if there is one. -/
theorem finalize_order {c : Catalog} {fault : Fault} (failed : c.finalize.1 = .error fault) :
    c.finalize.2.order = c.order := by
  rw [finalize] at failed ⊢
  cases related : c.relations with
  | error fault => rfl
  | ok deps =>
    simp only [related] at failed ⊢
    cases sorted : ({ c with dependencies := deps } : Catalog).sort deps with
    | error fault => rfl
    | ok order => simp [sorted] at failed

/-- A catalog with an order is finalized already. -/
theorem Coherent.finalize_again {c : Catalog} (coherent : Coherent c) {order : List Resource}
    (ordered : c.ordered = .ok order) : c.finalize = (.ok (), c) := by
  cases known : c.order with
  | none => simp [Catalog.ordered, known] at ordered
  | some refs =>
    rw [finalize_eq (coherent.related refs known) (coherent.sorted refs known), ← known]

/-- What the calls on a catalog tell about it. -/
structure Traces (h : History) : Prop where
  reach : Reachable h.catalog
  declared : h.catalog.declared = h.calls.filterMap added?
  current : h.catalog.order.isSome = true ↔ Current h.calls

theorem Traces.next {h : History} (traces : Traces h) (e : Edit) : Traces (h.next e) := by
  cases e with
  | add r =>
    have step : h.next (.add r) = ⟨h.calls ++ [(.add r, (h.catalog.add r).1)], (h.catalog.add r).2⟩ := rfl
    rw [step]
    refine ⟨traces.reach.add r, ?_, ?_⟩
    all_goals by_cases known : r.display ∈ h.catalog.resources.keys
    · simpa [add_of_mem known, List.filterMap_cons, added?] using traces.declared
    · have declared := extend_declared (extend_ok_iff.mpr ⟨known, rfl⟩)
      simp [add_of_not_mem known, declared, traces.declared, added?]
    · simpa [add_of_mem known, current_snoc, added?] using traces.current
    · simp [add_of_not_mem known, current_snoc, added?]
  | finalize =>
    have step : h.next .finalize = ⟨h.calls ++ [(.finalize, h.catalog.finalize.1)], h.catalog.finalize.2⟩ := rfl
    rw [step]
    refine ⟨traces.reach.finalize, ?_, ?_⟩
    · simpa [finalize_declared, List.filterMap_cons, added?] using traces.declared
    · cases outcome : h.catalog.finalize.1 with
      | ok done =>
        obtain ⟨deps, order, related, sorted⟩ := finalize_ok_iff.mp outcome
        simp [finalize_eq related sorted, current_snoc]
      | error fault =>
        simpa [current_snoc, added?, finalize_order outcome] using traces.current

theorem history_traces (node : String) (edits : List Edit) : Traces (history node edits) := by
  have grow : ∀ (edits : List Edit) (h : History), Traces h → Traces (edits.foldl History.next h) := by
    intro edits
    induction edits with
    | nil => exact fun h traces => traces
    | cons e edits ih => exact fun h traces => ih (h.next e) (traces.next e)
  refine grow edits ⟨[], empty node⟩ ⟨.empty node, rfl, ?_⟩
  simp [Catalog.empty, Current]

/-! ## All calls -/

/-- Whatever resources are added to a catalog and however often it is finalized in between, in any
order and with any of these calls refused: it holds the resources whose adding succeeded, in this
order and under different display forms; another one is refused exactly when its display form is
taken, and that changes nothing; the catalog has an order exactly when it has been finalized since
the last resource was added. The order is then one of all its resources, each after what it depends
on, what a resource depends on is what the relations of the resources say, and to finalize again
would change nothing. -/
theorem history_correct (node : String) (edits : List Edit) :
    let h := history node edits
    (h.catalog.declared.map Resource.display).Nodup ∧
    h.catalog.declared = h.calls.filterMap added? ∧
    (∀ r fault, ((Edit.add r).on h.catalog).1 = .error fault ↔
      r.display ∈ h.catalog.declared.map Resource.display ∧ fault = .catalog (.duplicate r.display)) ∧
    (∀ r fault, ((Edit.add r).on h.catalog).1 = .error fault → ((Edit.add r).on h.catalog).2 = h.catalog) ∧
    ((∃ order, h.catalog.ordered = .ok order) ↔ Current h.calls) ∧
    ∀ order, h.catalog.ordered = .ok order →
      order.Perm h.catalog.declared ∧
      (∀ r ∈ h.catalog.declared, ∀ d,
        d ∈ h.catalog.dependenciesOf r ↔ Precedes h.catalog.declared d r.display) ∧
      (∀ before r after, order = before ++ r :: after →
        ∀ d ∈ h.catalog.dependenciesOf r, d ∈ before.map Resource.display) ∧
      h.catalog.finalize = (.ok (), h.catalog) := by
  intro h
  have traces : Traces h := history_traces node edits
  have coherent := traces.reach.coherent
  refine ⟨coherent.keyed.nodup, traces.declared, ?_, ?_, ?_, ?_⟩
  · exact fun r fault => add_refused_iff coherent.keyed
  · exact fun r fault => add_of_refused
  · rw [← traces.current, Catalog.ordered]
    cases h.catalog.order <;> simp
  · intro order ordered
    have settled := traces.reach.settled ordered
    refine ⟨settled.perm, fun r _ d => settled.depends r.display d, ?_, coherent.finalize_again ordered⟩
    exact fun before r after split d depends => settled.before split depends

/-- Two notices are added, the catalog is finalized, and one of them is refused a second time. -/
def refusedTwice : List Edit := twoNotices.map Edit.add ++ [.finalize] ++ twoNotices.map Edit.add

theorem history_correct_refusedTwice :
    Current (history "script" refusedTwice).calls ∧
      ∃ order, (history "script" refusedTwice).catalog.ordered = .ok order ∧
        order.Perm (history "script" refusedTwice).catalog.declared ∧
        order.map Resource.display = ["Notify[a]", "Notify[b]"] := by
  obtain ⟨-, -, -, -, known, whenKnown⟩ := history_correct "script" refusedTwice
  refine ⟨known.mp ⟨_, rfl⟩, _, rfl, (whenKnown _ rfl).1, rfl⟩

end Converge.Catalog
