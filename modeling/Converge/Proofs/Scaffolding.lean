import Mathlib.Data.List.Find
import Converge.Proofs.BlockFormat
import Converge.Proofs.Spellings
import Converge.Proofs.Unrelated

/-!
# Blocks that keep apart from the resources of every catalog

The resources of every catalog stand in front of those that a block of code declares (`scaffolded`). A block that
declares none of them and relates nothing to them is not touched by them: it is refused for the same causes
(`compile_scaffolded`, `Apart.finalize_scaffolded`), its resources are taken in the same order after those
(`Apart.sort_scaffolded`), and what is done to bring it about is the same (`foldlM_step_alike`). All of this together
is `scaffolding_unnoticed`.
-/

namespace Converge

/-- A resource keeps apart from those of every catalog: it is none of them, and its relations name none. -/
structure Resource.IsApart (r : Resource) : Prop where
  own : r.display ∉ builtins
  require : ∀ name ∈ builtins, ¬ Catalog.Names r "require" name
  before : ∀ name ∈ builtins, ¬ Catalog.Names r "before" name

namespace Catalog

open Text

variable {sets : Value.SetOrder} {c own : Catalog} {r : Resource} {node : String}

/-! ## What a document declares -/

/-- A section of a block declares a resource: it is under a known type, is not virtual, and an entry of it says what
the resource is. -/
def SectionDeclares (e : Value × Value) (r : Resource) : Prop :=
  ∃ typeName t named, e.1.shown = .ok typeName ∧ ¬ IsVirtualType typeName ∧
    ResourceType.get (lower typeName) = .ok t ∧ e.2.entries? = some named ∧
    ∃ entry ∈ named, Says (lower typeName) entry r

/-- A document declares a resource in one of its sections. -/
def Declares (data : Value) (r : Resource) : Prop :=
  ∃ sections, data.entries? = some sections ∧ ∃ e ∈ sections, SectionDeclares e r

theorem IsSection.declares {e : Value × Value} {rs : List Resource} (sectioned : IsSection e rs) (member : r ∈ rs) :
    SectionDeclares e r := by
  cases sectioned with
  | virtual _ _ => cases member
  | null _ _ _ _ => cases member
  | mapping shown real known given all =>
    obtain ⟨entry, inside, told⟩ := exists_of_forall₂ all member
    exact ⟨_, _, _, shown, real, known, given, entry, inside, told⟩

theorem IsBlock.declares {data : Value} {rs : List Resource} (block : IsBlock data rs) (member : r ∈ rs) :
    Declares data r := by
  cases block with
  | null _ => cases member
  | mapping given all =>
    obtain ⟨rs, listed, inside⟩ := List.mem_flatten.mp member
    obtain ⟨e, within, sectioned⟩ := exists_of_forall₂ all listed
    exact ⟨_, given, e, within, sectioned.declares inside⟩

/-! ## Compiling -/

/-- The catalog with the resources of every catalog in front of its own. -/
def scaffolded (c : Catalog) : Catalog :=
  { c with resources := (scaffold c.node).resources.insertAll c.resources.entries }

theorem keys_scaffold (node : String) : (scaffold node).resources.keys = builtins := by
  rw [(keyed_scaffold node).keys, displays_scaffold]

/-- What is none of the resources of every catalog is found as without them. -/
theorem resource?_scaffolded (c : Catalog) {name : String} (outside : name ∉ builtins) :
    c.scaffolded.resource? name = c.resource? name := by
  have absent : (scaffold c.node).resources.get? name = none := by
    rw [Table.get?_eq_none, keys_scaffold]
    exact outside
  have found : c.scaffolded.resource? name = _ := Table.get?_insertAll _ _ _
  rw [found, absent, Option.or_none, Table.ofList_entries]
  rfl

theorem contains_scaffolded (c : Catalog) {name : String} (outside : name ∉ builtins) :
    c.scaffolded.resources.contains name = c.resources.contains name :=
  congrArg Option.isSome (resource?_scaffolded c outside)

theorem extend_scaffolded (outside : r.display ∉ builtins) : c.scaffolded.extend r = (c.extend r).map scaffolded := by
  rw [extend, add, extend, add, contains_scaffolded c outside]
  by_cases known : c.resources.contains r.display
  · rw [if_pos known, if_pos known]
    rfl
  · rw [if_neg known, if_neg known]
    have new : r.display ∉ c.resources.keys := by
      rw [← Table.get?_eq_none]
      simpa [Table.contains] using known
    have last : c.scaffolded.resources.insert r.display r =
        (scaffold c.node).resources.insertAll (c.resources.insert r.display r).entries := by
      rw [Table.entries_insert_of_not_mem new]
      simp [scaffolded, Table.insertAll]
    rw [last]
    rfl

variable {typeName : String}

theorem addEntry_scaffolded {e : Value × Value} (outside : ∀ r, IsDeclaredBy typeName e r → r.display ∉ builtins) :
    addEntry typeName c.scaffolded e = (addEntry typeName c e).map scaffolded := by
  cases shown : e.1.shown with
  | error fault => simp only [addEntry, shown, bind, Except.bind, Except.map]
  | ok name =>
    cases built : Resource.build (.text typeName) (.text name) e.2 with
    | error report =>
      simp only [addEntry, shown, built, bind, Except.bind]
      rfl
    | ok r =>
      simp only [addEntry, shown, built, bind, Except.bind]
      exact extend_scaffolded (outside r ⟨name, shown, built⟩)

theorem foldlM_addEntry_scaffolded {entries : List (Value × Value)}
    (outside : ∀ e ∈ entries, ∀ r, IsDeclaredBy typeName e r → r.display ∉ builtins) :
    entries.foldlM (addEntry typeName) c.scaffolded = (entries.foldlM (addEntry typeName) c).map scaffolded := by
  induction entries generalizing c with
  | nil => rfl
  | cons e entries ih =>
    obtain ⟨first, later⟩ := List.forall_mem_cons.mp outside
    rw [List.foldlM_cons, List.foldlM_cons, addEntry_scaffolded first]
    cases addEntry typeName c e with
    | error fault => rfl
    | ok next => exact ih later

/-- A section that declares none of the resources of every catalog adds to them what it adds without them. -/
theorem addType_scaffolded {e : Value × Value} (shown : e.1.shown = .ok typeName) (real : ¬ IsVirtualType typeName)
    (outside : ∀ r, SectionDeclares e r → r.display ∉ builtins) :
    c.scaffolded.addType typeName e.2 = (c.addType typeName e.2).map scaffolded := by
  cases known : ResourceType.get (lower typeName) with
  | error fault => simp only [addType, known, bind, Except.bind, Except.map]
  | ok t =>
    simp only [addType, known, bind, Except.bind]
    split
    · rfl
    · next named given _ =>
      refine foldlM_addEntry_scaffolded fun entry inside r declared => outside r ?_
      exact ⟨typeName, t, named, shown, real, known, given, entry, inside, (isDeclaredBy_iff known).mp declared⟩
    · rfl

theorem addTypes_scaffolded {sections : List (Value × Value)}
    (outside : ∀ e ∈ sections, ∀ r, SectionDeclares e r → r.display ∉ builtins) :
    c.scaffolded.addTypes sections = ((c.addTypes sections).1, (c.addTypes sections).2.map scaffolded) := by
  induction sections generalizing c with
  | nil => rfl
  | cons e sections ih =>
    obtain ⟨first, later⟩ := List.forall_mem_cons.mp outside
    obtain ⟨key, entries⟩ := e
    rw [addTypes, addTypes]
    cases shown : key.shown with
    | error fault => rfl
    | ok typeName =>
      dsimp only
      split
      · rw [ih later]
      · next real =>
        have kept : ¬ IsVirtualType typeName := fun virtual => by
          obtain ⟨rest, spelled⟩ := List.head?_eq_some_iff.mp virtual
          exact real rest spelled
        have added := addType_scaffolded (c := c) (e := (key, entries)) shown kept first
        dsimp only at added
        rw [added]
        cases c.addType typeName entries with
        | error fault => rfl
        | ok next => exact ih later

/-- A block of code that declares none of the resources of every catalog compiles as without them, to a catalog with
these in front, or is refused for the same cause. -/
theorem compile_scaffolded {code : Value}
    (outside : ∀ data, readCode sets code = .ok data → ∀ r, Declares data r → r.display ∉ builtins) (node : String) :
    compile sets node true code = ((compile sets node false code).1, (compile sets node false code).2.map scaffolded) := by
  rw [compile, compile]
  cases read : readCode sets code with
  | error fault => rfl
  | ok data =>
    have sections : ∀ entries, data.entries? = some entries → ∀ e ∈ entries, ∀ r, SectionDeclares e r →
        r.display ∉ builtins :=
      fun entries given e inside r declares => outside data read r ⟨entries, given, e, inside, declares⟩
    unfold ofValue
    dsimp only
    split
    · rfl
    · next entries _ given => exact addTypes_scaffolded (c := empty node) (sections entries given)
    · rfl

theorem declares_of_compile {code : Value} {data : Value} (read : readCode sets code = .ok data)
    (compiled : (compile sets node false code).2 = .ok own) : own.Reachable ∧ ∀ r ∈ own.declared, Declares data r := by
  rw [compile, read] at compiled
  obtain ⟨rs, block, built⟩ := ofValue_ok_iff.mp compiled
  rw [(ofResources_declared built).2]
  exact ⟨.ofResources built, fun r member => block.declares member⟩

/-! ## Relations -/

/-- A catalog keeps apart from the resources of every catalog: each of its own does. -/
structure Apart (c : Catalog) : Prop where
  keyed : c.Keyed
  apart : ∀ r ∈ c.declared, r.IsApart

theorem Apart.outside (apart : c.Apart) {name : String} (inside : name ∈ c.resources.keys) : name ∉ builtins := by
  rw [apart.keyed.keys] at inside
  obtain ⟨r, member, rfl⟩ := List.mem_map.mp inside
  exact (apart.apart r member).own

theorem Apart.entries (apart : c.Apart) :
    c.scaffolded.resources.entries = (scaffold c.node).resources.entries ++ c.resources.entries := by
  refine Table.entries_insertAll _ _ (List.nodup_append.mpr ⟨Table.nodup _, c.resources.nodup, ?_⟩)
  rintro name front _ inside rfl
  rw [keys_scaffold] at front
  exact apart.outside inside front

theorem Apart.declared_eq (apart : c.Apart) : c.scaffolded.declared = (scaffold c.node).declared ++ c.declared := by
  rw [declared, Table.values, apart.entries, List.map_append]
  rfl

theorem Apart.keys_eq (apart : c.Apart) : c.scaffolded.resources.keys = builtins ++ c.resources.keys := by
  rw [Table.keys, apart.entries, List.map_append, ← Table.keys, ← Table.keys, keys_scaffold]

theorem Apart.keyed_scaffolded (apart : c.Apart) : c.scaffolded.Keyed := by
  intro e member
  rw [apart.entries, List.mem_append] at member
  rcases member with front | inside
  · exact keyed_scaffold c.node e front
  · exact apart.keyed e inside

/-- A relation that names none of the resources of every catalog has the same targets, or the same fault. -/
theorem targets_scaffolded {relation : String} (outside : ∀ name ∈ builtins, ¬ Names r relation name) :
    c.scaffolded.targets r relation = c.targets r relation := by
  have one : ∀ item ∈ relationItems r relation, c.scaffolded.target r item = c.target r item := by
    intro item member
    rw [target, target]
    cases shown : item.display? with
    | none => rfl
    | some text =>
      dsimp only
      cases parsed : Ref.parse text with
      | error fault => rfl
      | ok ref =>
        have own : ref.display ∉ builtins := fun inside =>
          outside ref.display inside ⟨item, member, ref, ⟨text, shown, parsed⟩, rfl⟩
        dsimp only
        rw [contains_scaffolded c own]
  rw [targets, targets]
  generalize relationItems r relation = items at one
  induction items with
  | nil => rfl
  | cons item items ih =>
    obtain ⟨first, later⟩ := List.forall_mem_cons.mp one
    rw [List.mapM_cons, List.mapM_cons, first, ih later]

theorem relate_scaffolded (apart : r.IsApart) (deps : Table (List String)) :
    c.scaffolded.relate deps r = c.relate deps r := by
  rw [relate, relate, targets_scaffolded apart.require, targets_scaffolded apart.before]

/-- Two computations with the same fault, if any, both fail with it or both have a result. -/
theorem fault_cases {α β : Type} {x : Except Fault α} {y : Except Fault β}
    (same : x.map (fun _ => ()) = y.map fun _ => ()) :
    (∃ fault, x = .error fault ∧ y = .error fault) ∨ ∃ a b, x = .ok a ∧ y = .ok b := by
  cases x with
  | error fault =>
    cases y with
    | error fault' =>
      cases same
      exact .inl ⟨fault, rfl, rfl⟩
    | ok b => cases same
  | ok a =>
    cases y with
    | error fault => cases same
    | ok b => exact .inr ⟨a, b, rfl, rfl⟩

/-- Whether a resource can be related does not depend on what is related already. -/
theorem relate_fault (c : Catalog) (deps deps' : Table (List String)) (r : Resource) :
    (c.relate deps r).map (fun _ => ()) = (c.relate deps' r).map fun _ => () := by
  rw [relate, relate]
  cases ResourceType.validateResource r with
  | error fault => rfl
  | ok _ =>
    cases c.targets r "require" with
    | error fault => rfl
    | ok required =>
      cases c.targets r "before" with
      | error fault => rfl
      | ok followers => rfl

theorem foldlM_relate_scaffolded {rs : List Resource} (apart : ∀ r ∈ rs, r.IsApart) (deps deps' : Table (List String)) :
    (rs.foldlM c.scaffolded.relate deps').map (fun _ => ()) = (rs.foldlM c.relate deps).map fun _ => () := by
  induction rs generalizing deps deps' with
  | nil => rfl
  | cons r rs ih =>
    obtain ⟨first, later⟩ := List.forall_mem_cons.mp apart
    rw [List.foldlM_cons, List.foldlM_cons, relate_scaffolded first]
    obtain ⟨fault, failed', failed⟩ | ⟨after', after, related', related⟩ := fault_cases (relate_fault c deps' deps r)
    · rw [failed', failed]
      rfl
    · rw [related', related]
      exact ih later after after'

/-- The relations are known with the resources of every catalog exactly when they are without, and fail for the same
cause otherwise. -/
theorem Apart.relations_fault (apart : c.Apart) :
    c.scaffolded.relations.map (fun _ => ()) = c.relations.map fun _ => () := by
  rw [relations, relations, apart.declared_eq, List.foldlM_append, foldlM_relate_unrelated (scaffold_unrelated c.node),
    forM_scaffold]
  exact foldlM_relate_scaffolded apart.apart _ _

theorem not_names_of_empty {relation name : String} (none : relationItems r relation = []) :
    ¬ Names r relation name := by
  rintro ⟨item, inside, -⟩
  rw [none] at inside
  cases inside

theorem precedes_scaffold (node : String) (rs : List Resource) (first second : String) :
    Precedes ((scaffold node).declared ++ rs) first second ↔ Precedes rs first second := by
  have none : ∀ r ∈ (scaffold node).declared, ¬ Orders r first second := by
    intro r member
    obtain ⟨require, before⟩ := scaffold_unrelated node r member
    rintro (⟨-, named⟩ | ⟨-, named⟩)
    · exact not_names_of_empty require.relationItems named
    · exact not_names_of_empty before.relationItems named
  constructor
  · rintro ⟨r, member, order⟩
    rcases List.mem_append.mp member with front | inside
    · exact absurd order (none r front)
    · exact ⟨r, inside, order⟩
  · rintro ⟨r, member, order⟩
    exact ⟨r, List.mem_append_right _ member, order⟩

/-- Each display form depends on the same with the resources of every catalog as without. -/
theorem Apart.mem_dependencies (apart : c.Apart) {deps deps' : Table (List String)} (related : c.relations = .ok deps)
    (related' : c.scaffolded.relations = .ok deps') (ref d : String) :
    d ∈ dependenciesIn deps' ref ↔ d ∈ dependenciesIn deps ref := by
  rw [mem_relations apart.keyed_scaffolded related', mem_relations apart.keyed related, apart.declared_eq,
    precedes_scaffold]

/-! ## The order -/

variable {deps : String → List String}

/-- Names in front that depend on nothing are taken first. -/
theorem schedule_front {front : List String} (free : ∀ ref ∈ front, deps ref = []) (fuel : Nat)
    (done pending : List String) :
    schedule deps (front.length + fuel) done (front ++ pending) = schedule deps fuel (done ++ front) pending := by
  induction front generalizing done with
  | nil => simp
  | cons ref front ih =>
    obtain ⟨first, later⟩ := List.forall_mem_cons.mp free
    have taken : (ref :: front ++ pending).find? (fun ref => (deps ref).all done.contains) = some ref := by
      simp [first]
    rw [List.length_cons, Nat.add_right_comm, schedule, taken]
    simpa using ih later (done ++ [ref])

/-- Names that are done and on which nothing depends are of no account. -/
theorem schedule_unasked {front : List String} (fuel : Nat) {done pending : List String}
    (unasked : ∀ ref ∈ pending, ∀ d ∈ deps ref, d ∉ front) : schedule deps fuel (front ++ done) pending =
      (front ++ (schedule deps fuel done pending).1, (schedule deps fuel done pending).2) := by
  induction fuel generalizing done pending with
  | zero => rfl
  | succ fuel ih =>
    -- The same name is the first that can be taken, as none that is pending asks for what is in front.
    have same : pending.find? (fun ref => (deps ref).all (front ++ done).contains) =
        pending.find? fun ref => (deps ref).all done.contains := by
      refine List.find?_congr fun ref member => ?_
      rw [Bool.eq_iff_iff]
      simp only [List.all_eq_true, List.contains_iff_mem, List.mem_append]
      constructor
      · intro all d depends
        exact (all d depends).resolve_left (unasked ref member d depends)
      · intro all d depends
        exact .inr (all d depends)
    rw [schedule, schedule, same]
    split
    · rfl
    · rw [List.append_assoc]
      exact ih fun ref member => unasked ref (List.mem_of_mem_erase member)

/-- The resources of every catalog come first in the order, and then the others as without them. -/
theorem Apart.sort_scaffolded (apart : c.Apart) {deps : Table (List String)} (within : Within c.resources.keys deps) :
    c.scaffolded.sort deps = (c.sort deps).map (builtins ++ ·) := by
  have free : ∀ name ∈ builtins, dependenciesIn deps name = [] := by
    intro name front
    rw [List.eq_nil_iff_forall_not_mem]
    exact fun d depends => apart.outside (within name d depends).2 front
  have unasked : ∀ ref ∈ c.resources.keys, ∀ d ∈ dependenciesIn deps ref, d ∉ builtins :=
    fun ref _ d depends => apart.outside (within ref d depends).1
  have size : c.scaffolded.size = builtins.length + c.size := by
    have lengths := congrArg List.length apart.keys_eq
    simpa [Catalog.size, Table.size, Table.keys] using lengths
  have run := @schedule_unasked (dependenciesIn deps) builtins c.size [] c.resources.keys unasked
  rw [List.append_nil] at run
  rw [sort_eq, sort_eq, apart.keys_eq, size, schedule_front free, List.nil_append, run]
  cases schedule (dependenciesIn deps) c.size [] c.resources.keys with
  | mk order left => cases left <;> rfl

/-! ## Finalizing -/

theorem Apart.ordered_eq (apart : c.Apart) {refs : List String} (listed : ∀ ref ∈ refs, ref ∈ c.resources.keys) :
    (builtins ++ refs).filterMap c.scaffolded.resource? = (scaffold c.node).declared ++ refs.filterMap c.resource? := by
  have front : builtins.filterMap c.scaffolded.resource? = (scaffold c.node).declared := by
    rw [← displays_scaffold c.node]
    refine apart.keyed_scaffolded.filterMap_resource? fun r member => ?_
    rw [apart.declared_eq]
    exact List.mem_append_left _ member
  have own : refs.filterMap c.scaffolded.resource? = refs.filterMap c.resource? :=
    List.filterMap_congr fun ref member => resource?_scaffolded c (apart.outside (listed ref member))
  rw [List.filterMap_append, front, own]

/-- One catalog is finalized as another, with the resources of every catalog in front of the order. -/
structure Alike (c d : Catalog) : Prop where
  finalized : d.finalize.1 = c.finalize.1
  depends : ∀ r name, name ∈ d.finalize.2.dependenciesOf r ↔ name ∈ c.finalize.2.dependenciesOf r
  ordered : c.finalize.1 = .ok () → ∃ order, c.finalize.2.ordered = .ok order ∧
    d.finalize.2.ordered = .ok (scaffoldingRefs.map (⟨·, ∅⟩) ++ order)

theorem Apart.finalize_scaffolded (apart : c.Apart) : Alike c c.scaffolded := by
  obtain ⟨fault, failed', failed⟩ | ⟨deps', deps, related', related⟩ := fault_cases apart.relations_fault
  · have ends : c.finalize = (.error fault, c) := by simp only [finalize, failed]
    have ends' : c.scaffolded.finalize = (.error fault, c.scaffolded) := by simp only [finalize, failed']
    refine ⟨?_, fun r name => ?_, fun finalized => ?_⟩
    · rw [ends, ends']
    · rw [ends, ends']
      exact Iff.rfl
    · rw [ends] at finalized
      cases finalized
  · have within := within_of_admitted apart.keyed related
    have depends := apart.mem_dependencies related related'
    have sorts : c.scaffolded.sort deps' = (c.sort deps).map (builtins ++ ·) :=
      (sort_congr rfl depends).trans (apart.sort_scaffolded within)
    obtain ⟨ends, known, ordered⟩ := finalize_of_relations related
    obtain ⟨ends', known', ordered'⟩ := finalize_of_relations related'
    refine ⟨?_, fun r name => ?_, fun finalized => ?_⟩
    · rw [ends, ends', sorts]
      cases c.sort deps <;> rfl
    · rw [dependenciesOf, dependenciesOf, known, known']
      exact depends r.display name
    · obtain ⟨_, refs, same, sorted⟩ := finalize_ok_iff.mp finalized
      cases related.symm.trans same
      have sorted' : c.scaffolded.sort deps' = .ok (builtins ++ refs) := by rw [sorts, sorted]; rfl
      have listed : ∀ ref ∈ refs, ref ∈ c.resources.keys := fun ref => (sort_ok sorted).1.mem_iff.mp
      refine ⟨_, ordered refs sorted, ?_⟩
      rw [ordered' _ sorted', apart.ordered_eq listed, declared_scaffold]

/-- The resources of every catalog depend on nothing. -/
theorem Apart.free_scaffold (apart : c.Apart) (finalized : c.finalize.1 = .ok ()) :
    ∀ r ∈ (scaffold c.node).declared, c.scaffolded.finalize.2.dependenciesOf r = [] := by
  intro r member
  rw [List.eq_nil_iff_forall_not_mem]
  intro name depends
  rw [apart.finalize_scaffolded.depends] at depends
  obtain ⟨order, settled⟩ := apart.keyed.settled finalized
  have precedes := (settled.depends r.display name).mp depends
  rw [finalize_declared] at precedes
  have admitted := (apart.keyed.finalize_ok_iff.mp finalized).1
  have inside : r.display ∈ c.resources.keys := by
    rw [apart.keyed.keys]
    exact (Precedes.declared admitted precedes).2
  have front : r.display ∈ builtins := by
    rw [← displays_scaffold c.node]
    exact List.mem_map_of_mem member
  exact apart.outside inside front

theorem Apart.nodup_order (apart : c.Apart) (finalized : c.finalize.1 = .ok ()) {order : List Resource}
    (ordered : c.scaffolded.finalize.2.ordered = .ok order) : (order.map Resource.display).Nodup := by
  rw [← apart.finalize_scaffolded.finalized] at finalized
  obtain ⟨other, settled⟩ := apart.keyed_scaffolded.settled finalized
  cases ordered.symm.trans settled.ordered
  exact settled.nodup

end Catalog

namespace Transaction

open Catalog

variable {σ : Type} [Hosted σ] {sets : Value.SetOrder} {apply : Applier σ} {noop : Bool} {c d : Catalog}
    {node : String} {s after : σ}

/-! ## Bringing about -/

/-- Visits in front that block nothing are of no account. -/
theorem blocked_front {front done : List Visit} (quiet : ∀ v ∈ front, v.blocks = false) (ref : String) :
    ref ∈ (progressOf node (front ++ done)).blocked ↔ ref ∈ (progressOf node done).blocked := by
  rw [mem_blocked, mem_blocked]
  constructor
  · rintro ⟨w, member, blocks, rfl⟩
    rcases List.mem_append.mp member with idle | own
    · rw [quiet w idle] at blocks
      cases blocks
    · exact ⟨w, own, blocks, rfl⟩
  · rintro ⟨w, member, blocks, rfl⟩
    exact ⟨w, List.mem_append_right _ member, blocks, rfl⟩

theorem visiting_resource {skipped : Bool} {r : Resource} {v : Visit}
    (visited : (visiting apply noop skipped r).result s = (.ok v, after)) : v.resource = r := by
  cases skipped with
  | true =>
    cases visited
    rfl
  | false =>
    obtain ⟨outcome, between, run⟩ : ∃ outcome between, (bring apply noop r).result s = (outcome, between) :=
      ⟨_, _, rfl⟩
    cases outcome with
    | error fault =>
      cases visited.symm.trans (Action.result_bind_of_error run)
    | ok events =>
      cases visited.symm.trans (Action.result_bind_of_ok run)
      rfl

/-- Resources that depend on the same in two catalogs are visited alike, although visits that block nothing were made
before in the one. -/
theorem foldlM_step_alike {front : List Visit} (quiet : ∀ v ∈ front, v.blocks = false)
    (same : ∀ r name, name ∈ d.dependenciesOf r ↔ name ∈ c.dependenciesOf r) (rs : List Resource) (done : List Visit)
    (s : σ) : ∃ (outcome : Except Fault (List Visit)) (after : σ),
      (rs.foldlM (step apply noop c) (progressOf node done)).result s = (outcome.map (progressOf node), after) ∧
      (rs.foldlM (step apply noop d) (progressOf node (front ++ done))).result s =
        (outcome.map fun visits => progressOf node (front ++ visits), after) ∧
      ∀ visits, outcome = .ok visits → visits.map Visit.resource = done.map Visit.resource ++ rs := by
  induction rs generalizing done s with
  | nil =>
    refine ⟨.ok done, s, rfl, rfl, ?_⟩
    rintro visits ⟨⟩
    exact (List.append_nil _).symm
  | cons r rs ih =>
    have skips : (d.dependenciesOf r).any (progressOf node (front ++ done)).blocked.contains =
        (c.dependenciesOf r).any (progressOf node done).blocked.contains := by
      rw [Bool.eq_iff_iff]
      simp only [List.any_eq_true, List.contains_iff_mem, same, blocked_front quiet]
    obtain ⟨outcome, between, run⟩ : ∃ outcome between,
        (visiting apply noop ((c.dependenciesOf r).any (progressOf node done).blocked.contains) r).result s =
          (outcome, between) := ⟨_, _, rfl⟩
    cases outcome with
    | error fault =>
      have first : (step apply noop c (progressOf node done) r).result s = (.error fault, between) := by
        rw [step_eq]
        exact Action.result_bind_of_error run
      have first' : (step apply noop d (progressOf node (front ++ done)) r).result s = (.error fault, between) := by
        rw [step_eq, skips]
        exact Action.result_bind_of_error run
      exact ⟨.error fault, between, Action.result_bind_of_error first, Action.result_bind_of_error first', by simp⟩
    | ok v =>
      have first : (step apply noop c (progressOf node done) r).result s =
          (.ok (progressOf node (done ++ [v])), between) := by
        rw [step_eq, progressOf_append]
        exact Action.result_bind_of_ok run
      have first' : (step apply noop d (progressOf node (front ++ done)) r).result s =
          (.ok (progressOf node (front ++ (done ++ [v]))), between) := by
        rw [step_eq, skips, ← List.append_assoc, progressOf_append]
        exact Action.result_bind_of_ok run
      obtain ⟨outcome, after, later, later', visited⟩ := ih (done ++ [v]) between
      refine ⟨outcome, after, ?_, ?_, fun visits ended => ?_⟩
      · rw [List.foldlM_cons, Action.result_bind_of_ok first, later]
      · rw [List.foldlM_cons, Action.result_bind_of_ok first', later']
      · rw [visited visits ended, List.map_append, List.append_assoc, List.map_singleton, visiting_resource run]
        rfl

/-- What a resource that is brought about without an event makes known. -/
def idleStatus (r : Resource) : Status := ⟨r.display, [], false⟩

omit [Hosted σ] in
theorem overallOf_idle (idle : List Resource) (statuses : List Status) :
    Report.overallOf (idle.map idleStatus ++ statuses) = Report.overallOf statuses := by
  have failed : (idle.map idleStatus).any Status.failed = false := by
    rw [List.any_map]
    exact List.any_eq_false.mpr fun r _ => Bool.false_ne_true
  have changed : (idle.map idleStatus).any Status.changed = false := by
    rw [List.any_map]
    exact List.any_eq_false.mpr fun r _ => Bool.false_ne_true
  simp only [Report.overallOf, List.any_append, failed, changed, Bool.false_or]

/-- A transaction with resources in front that depend on nothing and are brought about without a change ends as the
one without them does, and its report has their statuses in front. -/
theorem evaluate_alike {idle order : List Resource} (free : ∀ r ∈ idle, d.dependenciesOf r = [])
    (quiet : ∀ r ∈ idle, ∀ s, (bring apply noop r).result s = (.ok [], s))
    (same : ∀ r name, name ∈ d.dependenciesOf r ↔ name ∈ c.dependenciesOf r) (ordered : c.ordered = .ok order)
    (ordered' : d.ordered = .ok (idle ++ order)) (apart : ((idle ++ order).map Resource.display).Nodup)
    {report : Report} (run : (evaluate apply noop c (.start node)).result s = (.ok report, after)) :
    ∃ report', (evaluate apply noop d (.start node)).result s = (.ok report', after) ∧
      report'.statuses.entries = idle.map (fun r => (r.display, idleStatus r)) ++ report.statuses.entries ∧
      report'.overall = report.overall := by
  let front := idle.map (broughtAbout noop · [])
  have unblocked : ∀ v ∈ front, v.blocks = false := by
    intro v member
    obtain ⟨r, -, rfl⟩ := List.mem_map.mp member
    rfl
  obtain ⟨outcome, last, first, second, visited⟩ :=
    @foldlM_step_alike σ _ apply noop c d node front unblocked same order [] s
  cases outcome with
  | error fault =>
    have stopped : (evaluate apply noop c (.start node)).result s = (.error fault, last) := by
      have listed : (Action.ofExcept c.ordered).result s = (.ok order, s) := by rw [Action.result_ofExcept, ordered]
      rw [evaluate, Action.result_bind_of_ok listed]
      exact Action.result_bind_of_error first
    rw [run] at stopped
    cases stopped
  | ok visits =>
    have ended := evaluate_of_visits ordered first
    rw [run] at ended
    cases ended
    have run' : ((idle ++ order).foldlM (step apply noop d) (progressOf node [])).result s =
        (.ok (progressOf node (front ++ visits)), after) := by
      rw [List.append_nil] at second
      rw [List.foldlM_append, Action.result_bind_of_ok (foldlM_idle free quiet node [] s)]
      exact second
    have resources : (front ++ visits).map Visit.resource = idle ++ order := by
      rw [List.map_append, resources_idle, visited visits rfl]
      rfl
    have displays : ((front ++ visits).map Visit.display).Nodup := by
      rw [← resources, List.map_map] at apart
      exact apart
    have own : (visits.map Visit.display).Nodup := by
      rw [List.map_append] at displays
      exact (List.nodup_append.mp displays).2.1
    have entries : (progressOf node (front ++ visits)).report.finalize.statuses.entries =
        idle.map (fun r => (r.display, idleStatus r)) ++ (progressOf node visits).report.statuses.entries := by
      have all := progressOf_entries node (front ++ visits) displays
      rw [List.map_append, List.map_map] at all
      rw [progressOf_entries node visits own]
      exact all
    refine ⟨_, evaluate_of_visits ordered' run', entries, congrArg some ?_⟩
    have values := congrArg (List.map Prod.snd) entries
    rw [List.map_append, List.map_map] at values
    exact (congrArg Report.overallOf values).trans (overallOf_idle idle _)

/-! ## The whole -/

/-- A block of code that declares none of the resources of every catalog and relates nothing to them compiles and is
finalized with them exactly when it is without them, and is refused for the same cause otherwise. With them the order
is that of their declaration and then the one without them, and each resource depends on the same. From any state the
transactions of both end in the same state, with the same status for each resource that the code declares. -/
theorem scaffolding_unnoticed {code : Value}
    (apart : ∀ data, readCode sets code = .ok data → ∀ r, Declares data r → r.IsApart) (node : String) :
    (compile sets node true code).1 = (compile sets node false code).1 ∧
    ((compile sets node true code).2 >>= fun c => c.finalize.1) =
      ((compile sets node false code).2 >>= fun c => c.finalize.1) ∧
    ∀ c own, (compile sets node true code).2 = .ok c → (compile sets node false code).2 = .ok own →
      (∀ r ∈ own.declared, ∀ name, name ∈ c.finalize.2.dependenciesOf r ↔ name ∈ own.finalize.2.dependenciesOf r) ∧
      (own.finalize.1 = .ok () → ∃ order, own.finalize.2.ordered = .ok order ∧
        c.finalize.2.ordered = .ok (scaffoldingRefs.map (⟨·, ∅⟩) ++ order) ∧
        ∀ (noop : Bool) (name : String) (s : σ), ∃ report report' after,
          (evaluate Store.applier noop own.finalize.2 (.start name)).result s = (.ok report, after) ∧
          (evaluate Store.applier noop c.finalize.2 (.start name)).result s = (.ok report', after) ∧
          report'.overall = report.overall ∧ ∀ r ∈ own.declared, ∃ status,
            report.statuses.get? r.display = some status ∧ report'.statuses.get? r.display = some status) := by
  have same := compile_scaffolded (fun data read r declares => (apart data read r declares).own) node
  have each : ∀ own, (compile sets node false code).2 = .ok own → own.Reachable ∧ own.Apart := by
    intro own compiled
    cases read : readCode sets code with
    | error fault =>
      rw [compile, read] at compiled
      cases compiled
    | ok data =>
      obtain ⟨reach, declares⟩ := declares_of_compile read compiled
      exact ⟨reach, reach.coherent.keyed, fun r member => apart data read r (declares r member)⟩
  refine ⟨by rw [same], ?_, fun c own compiled compiled' => ?_⟩
  · rw [same]
    cases compiled : (compile sets node false code).2 with
    | error fault => rfl
    | ok own => exact (each own compiled).2.finalize_scaffolded.finalized
  · obtain ⟨reach, kept⟩ := each own compiled'
    obtain rfl : own.scaffolded = c := by
      rw [same, compiled'] at compiled
      exact Except.ok.inj compiled
    have alike := kept.finalize_scaffolded
    refine ⟨fun r _ => alike.depends r, fun finalized => ?_⟩
    obtain ⟨order, ordered, ordered'⟩ := alike.ordered finalized
    refine ⟨order, ordered, ordered', fun noop name s => ?_⟩
    have told : ∀ r ∈ order, Raises Fault.IsTold (Store.applier r (isDry noop r) : Action σ (List Event)) :=
      fun r _ => Store.applier_told r _
    obtain ⟨report, ⟨after, _⟩, _, watched, -, evaluated, -⟩ :=
      evaluate_told (reach.finalize.settled ordered) told name ⟨s, []⟩
    have run := evaluate_watching Store.applier noop own.finalize.2 (.start name) ⟨s, []⟩
    rw [watched] at run
    rw [← declared_scaffold own.node] at ordered'
    have distinct := kept.nodup_order finalized ordered'
    obtain ⟨report', run', entries, overall⟩ := evaluate_alike (kept.free_scaffold finalized)
      (fun r member => bring_scaffold noop member) alike.depends ordered ordered' distinct run
    refine ⟨report, report', after, run, run', overall, fun r member => ?_⟩
    have listed : r.display ∈ report.statuses.keys := by
      have perm := (reach.finalize.settled ordered).perm
      rw [finalize_declared] at perm
      rw [evaluated.statuses]
      exact List.mem_map_of_mem (perm.mem_iff.mpr member)
    obtain ⟨⟨_, status⟩, known, rfl⟩ := List.mem_map.mp listed
    refine ⟨status, Table.get?_eq_some.mpr known, Table.get?_eq_some.mpr ?_⟩
    rw [entries]
    exact List.mem_append_right _ known

/-- A schedule of its own, after a notice that is declared later. -/
def nightlyBlock : String := "schedule:\n  nightly:\n    require: Notify[a]\nnotify:\n  a:\n"

theorem scaffolding_unnoticed_nightlyBlock :
    (∀ data, readCode .asPut (.text nightlyBlock) = .ok data → ∀ r, Declares data r → r.IsApart) ∧
    ∃ c own order report report' after, (compile .asPut "script" true (.text nightlyBlock)).2 = .ok c ∧
      (compile .asPut "script" false (.text nightlyBlock)).2 = .ok own ∧ own.finalize.1 = .ok () ∧
      c.finalize.2.ordered = .ok (scaffoldingRefs.map (⟨·, ∅⟩) ++ order) ∧
      order.map Resource.display = ["Notify[a]", "Schedule[nightly]"] ∧
      (evaluate Store.applier false own.finalize.2 (.start "script")).result Host.bare = (.ok report, after) ∧
      (evaluate Store.applier false c.finalize.2 (.start "script")).result Host.bare = (.ok report', after) := by
  have loaded : Document.load .asPut nightlyBlock = .ok (.map none
      [(.text "schedule", .map none [(.text "nightly", .map none [(.text "require", .text "Notify[a]")])]),
        (.text "notify", .map none [(.text "a", .null)])]) := eq_ok_of_toOption (by decide +kernel)
  have apart : ∀ data, readCode .asPut (.text nightlyBlock) = .ok data → ∀ r, Declares data r → r.IsApart := by
    intro data read r declares
    cases (readCode_of_load loaded).symm.trans read
    obtain ⟨_, ⟨⟩, e, member, typeName, t, named, shown, -, known, given, entry, inside, told⟩ := declares
    obtain ⟨name, shown', built⟩ := (isDeclaredBy_iff known).mpr told
    rcases List.mem_pair.mp member with rfl | rfl
    · cases shown
      cases given
      obtain rfl := List.mem_singleton.mp inside
      cases shown'
      cases built
      refine ⟨by decide +kernel, ?_, fun _ _ => not_names_of_empty rfl⟩
      rintro target listed ⟨item, inside, ref, reads, rfl⟩
      obtain rfl : item = .text "Notify[a]" := List.mem_singleton.mp inside
      have other : Reads (.text "Notify[a]") { type := "notify", name := "a" } :=
        ⟨_, rfl, eq_ok_of_toOption (by decide +kernel)⟩
      rw [reads.unique other] at listed
      exact absurd listed (by decide +kernel)
    · cases shown
      cases given
      obtain rfl := List.mem_singleton.mp inside
      cases shown'
      cases built
      exact ⟨by decide +kernel, fun _ _ => not_names_of_empty rfl, fun _ _ => not_names_of_empty rfl⟩
  have compiles : ((compile .asPut "script" true (.text nightlyBlock)).2.toOption.map fun _ => ()) = some () := by
    decide +kernel
  have compiles' : ((compile .asPut "script" false (.text nightlyBlock)).2.toOption.map fun c =>
      (c.finalize.1.toOption, c.finalize.2.ordered.toOption.map (·.map Resource.display))) =
        some (some (), some ["Notify[a]", "Schedule[nightly]"]) := by decide +kernel
  obtain ⟨c, made, -⟩ := Option.map_eq_some_iff.mp compiles
  obtain ⟨own, made', parts⟩ := Option.map_eq_some_iff.mp compiles'
  obtain ⟨done, displays⟩ := Prod.mk.inj parts
  have compiled := eq_ok_of_toOption made
  have compiled' := eq_ok_of_toOption made'
  have finalized : own.finalize.1 = .ok () := eq_ok_of_toOption done
  obtain ⟨-, -, all⟩ := scaffolding_unnoticed (σ := Host) apart "script"
  obtain ⟨order, ordered, ordered', evaluated⟩ := (all c own compiled compiled').2 finalized
  obtain ⟨report, report', after, run, run', -⟩ := evaluated false "script" Host.bare
  rw [ordered] at displays
  exact ⟨apart, c, own, order, report, report', after, compiled, compiled', finalized, ordered',
    Option.some.inj displays, run, run'⟩

end Transaction

end Converge
