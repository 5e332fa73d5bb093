import Converge.Proofs.Taking

/-!
# Finalized catalogs

A catalog is built by adding resources; it can be finalized exactly when every resource is admitted
and no relation lies on a cycle, and the order is then one of its resources that respects the
dependencies (`finalize_correct`). Whatever is added and finalized in between, a catalog that has an
order has that of its present resources (`Reachable.settled`).
-/

namespace Converge.Catalog

/-- The catalog of a node to which resources are added one after the other. -/
def ofResources (node : String) (rs : List Resource) : Except Fault Catalog := rs.foldlM extend (empty node)

/-- The catalogs that come about by adding resources and finalizing, in any order and whether or not these
succeed. -/
inductive Reachable : Catalog → Prop
  | empty (node : String) : Reachable (empty node)
  | add {c : Catalog} (r : Resource) (reach : Reachable c) : Reachable (c.add r).2
  | finalize {c : Catalog} (reach : Reachable c) : Reachable c.finalize.2

/-! ## Adding -/

theorem add_of_mem {c : Catalog} {r : Resource} (known : r.display ∈ c.resources.keys) :
    c.add r = (.error (.catalog (.duplicate r.display)), c) := by
  have contained : c.resources.contains r.display = true := by
    rw [Table.contains, Option.isSome_iff_ne_none, ne_eq, Table.get?_eq_none, not_not]
    exact known
  rw [Catalog.add, if_pos contained]

theorem add_of_not_mem {c : Catalog} {r : Resource} (fresh : r.display ∉ c.resources.keys) :
    c.add r = (.ok (), { c with resources := c.resources.insert r.display r, order := none }) := by
  have missing : ¬ c.resources.contains r.display = true := by
    rw [Table.contains, Option.isSome_iff_ne_none, ne_eq, Table.get?_eq_none, not_not]
    exact fresh
  rw [Catalog.add, if_neg missing]

theorem extend_ok_iff {c after : Catalog} {r : Resource} :
    c.extend r = .ok after ↔ r.display ∉ c.resources.keys ∧
      after = { c with resources := c.resources.insert r.display r, order := none } := by
  rw [Catalog.extend]
  by_cases known : r.display ∈ c.resources.keys
  · rw [add_of_mem known]
    exact iff_of_false (fun same => by cases same) fun both => both.1 known
  · rw [add_of_not_mem known]
    exact ⟨fun same => ⟨known, (Except.ok.inj same).symm⟩, fun both => congrArg Except.ok both.2.symm⟩

theorem extend_entries {c after : Catalog} {r : Resource} (added : c.extend r = .ok after) :
    after.resources.entries = c.resources.entries ++ [(r.display, r)] := by
  obtain ⟨fresh, rfl⟩ := extend_ok_iff.mp added
  exact Table.entries_insert_of_not_mem fresh

theorem extend_declared {c after : Catalog} {r : Resource} (added : c.extend r = .ok after) :
    after.declared = c.declared ++ [r] := by
  rw [declared, Table.values, extend_entries added, List.map_append]
  rfl

theorem Keyed.extend {c after : Catalog} {r : Resource} (keyed : c.Keyed) (added : c.extend r = .ok after) :
    after.Keyed := by
  intro e member
  rw [extend_entries added, List.mem_append, List.mem_singleton] at member
  rcases member with earlier | rfl
  · exact keyed e earlier
  · rfl

theorem Keyed.nodup {c : Catalog} (keyed : c.Keyed) : (c.declared.map Resource.display).Nodup := by
  rw [← keyed.keys]
  exact c.resources.nodup

theorem Keyed.resource? {c : Catalog} (keyed : c.Keyed) {r : Resource} (member : r ∈ c.declared) :
    c.resource? r.display = some r := by
  obtain ⟨e, listed, rfl⟩ := List.mem_map.mp member
  have own := Table.get?_eq_some.mpr listed
  rwa [keyed e listed] at own

/-- Resources that are added one after the other are declared last, in their order. -/
theorem foldlM_extend {start c : Catalog} (rs : List Resource) (keyed : start.Keyed)
    (built : rs.foldlM extend start = .ok c) : c.Keyed ∧ c.declared = start.declared ++ rs := by
  induction rs generalizing start with
  | nil =>
    cases built
    exact ⟨keyed, by simp⟩
  | cons r rs ih =>
    rw [List.foldlM_cons, bind_eq_ok] at built
    obtain ⟨next, added, later⟩ := built
    obtain ⟨keyed', declared⟩ := ih (keyed.extend added) later
    refine ⟨keyed', ?_⟩
    rw [declared, extend_declared added, List.append_assoc, List.singleton_append]

/-- Nothing that is added is lost or moved. -/
theorem ofResources_declared {node : String} {rs : List Resource} {c : Catalog}
    (built : ofResources node rs = .ok c) : c.Keyed ∧ c.declared = rs :=
  foldlM_extend rs (fun e member => by cases member) built

/-! ## Sorting -/

/-- Dependencies are among the names of a list, and so is what has them. -/
def Within (names : List String) (deps : Table (List String)) : Prop :=
  ∀ ref d, d ∈ dependenciesIn deps ref → d ∈ names ∧ ref ∈ names

theorem sort_ok {c : Catalog} {deps : Table (List String)} {order : List String}
    (sorted : c.sort deps = .ok order) :
    order.Perm c.resources.keys ∧ Respects (dependenciesIn deps) [] order := by
  have run := sort_ok_iff_schedule.mp sorted
  have perm := @schedule_perm (dependenciesIn deps) c.size [] c.resources.keys
  have respects := @schedule_respects (dependenciesIn deps) c.size [] c.resources.keys trivial
  rw [run] at perm respects
  exact ⟨by simpa using perm, respects⟩

/-- There is an order exactly when no dependency lies on a cycle. -/
theorem sort_ok_iff {c : Catalog} {deps : Table (List String)} (within : Within c.resources.keys deps) :
    (∃ order, c.sort deps = .ok order) ↔
      ∀ ref, ¬ Relation.TransGen (fun first second => first ∈ dependenciesIn deps second) ref ref := by
  constructor
  · rintro ⟨order, sorted⟩ ref
    obtain ⟨perm, respects⟩ := sort_ok sorted
    refine respects.acyclic (perm.nodup_iff.mpr c.resources.nodup) ?_ ref
    exact fun first second depends => ⟨perm.mem_iff.mpr (within second first depends).2, depends⟩
  · intro acyclic
    have perm := @schedule_perm (dependenciesIn deps) c.size [] c.resources.keys
    have stuck := @schedule_stuck (dependenciesIn deps) c.size [] c.resources.keys
      (by simp [size, Table.size, Table.keys])
    rw [sort_eq]
    split
    · next order run => exact ⟨order, rfl⟩
    · next order left nonempty run =>
      exfalso
      rw [run] at perm stuck
      obtain ⟨ref, cycle⟩ := exists_cycle (R := fun first second => first ∈ dependenciesIn deps second)
        nonempty fun ref member => by
          obtain ⟨d, depends, missing⟩ := stuck ref member
          have declared := perm.mem_iff.mpr (by simpa using (within ref d depends).1)
          exact ⟨d, (List.mem_append.mp declared).resolve_left missing, depends⟩
      exact acyclic ref cycle

/-! ## Finalizing -/

theorem finalize_ok_iff {c : Catalog} :
    c.finalize.1 = .ok () ↔ ∃ deps order, c.relations = .ok deps ∧ c.sort deps = .ok order := by
  rw [finalize]
  cases related : c.relations with
  | error fault => simp
  | ok deps =>
    have same : ({ c with dependencies := deps } : Catalog).sort deps = c.sort deps := rfl
    simp only [same]
    cases sorted : c.sort deps with
    | error fault => simp [sorted]
    | ok order => simp [sorted]

theorem finalize_eq {c : Catalog} {deps : Table (List String)} {order : List String}
    (related : c.relations = .ok deps) (sorted : c.sort deps = .ok order) :
    c.finalize = (.ok (), { c with dependencies := deps, order := some order }) := by
  have same : ({ c with dependencies := deps } : Catalog).sort deps = .ok order := sorted
  simp [finalize, related, same]

/-- Finalizing moves no resource. -/
theorem finalize_declared (c : Catalog) : c.finalize.2.declared = c.declared := by
  rw [finalize]
  cases c.relations with
  | error fault => rfl
  | ok deps =>
    dsimp only
    cases ({ c with dependencies := deps } : Catalog).sort deps <;> rfl

/-- Relations of admitted resources name nothing but what is declared. -/
theorem within_of_admitted {c : Catalog} (keyed : c.Keyed) {deps : Table (List String)}
    (related : c.relations = .ok deps) : Within c.resources.keys deps := by
  have admitted := (relations_ok_iff keyed).mp ⟨deps, related⟩
  intro ref d depends
  rw [keyed.keys]
  exact Precedes.declared admitted ((mem_relations keyed related ref d).mp depends)

/-- A keyed catalog is finalized exactly when its resources are admitted and have no cycle. -/
theorem Keyed.finalize_ok_iff {c : Catalog} (keyed : c.Keyed) :
    c.finalize.1 = .ok () ↔ (∀ r ∈ c.declared, Admitted c.declared r) ∧
      ∀ ref, ¬ Relation.TransGen (Precedes c.declared) ref ref := by
  have same : ∀ deps, c.relations = .ok deps →
      (fun first second => first ∈ dependenciesIn deps second) = Precedes c.declared := by
    intro deps related
    funext first second
    exact propext (mem_relations keyed related second first)
  rw [Catalog.finalize_ok_iff]
  constructor
  · rintro ⟨deps, order, related, sorted⟩
    have acyclic := (sort_ok_iff (within_of_admitted keyed related)).mp ⟨order, sorted⟩
    rw [same deps related] at acyclic
    exact ⟨(relations_ok_iff keyed).mp ⟨deps, related⟩, acyclic⟩
  · rintro ⟨admitted, acyclic⟩
    obtain ⟨deps, related⟩ := (relations_ok_iff keyed).mpr admitted
    rw [← same deps related] at acyclic
    obtain ⟨order, sorted⟩ := (sort_ok_iff (within_of_admitted keyed related)).mpr acyclic
    exact ⟨deps, order, related, sorted⟩

/-- What holds of the order and the dependencies of a catalog that has an order. -/
structure Settled (c : Catalog) (order : List Resource) : Prop where
  ordered : c.ordered = .ok order
  perm : order.Perm c.declared
  nodup : (order.map Resource.display).Nodup
  respects : Respects (dependenciesIn c.dependencies) [] (order.map Resource.display)
  valid : ∀ r ∈ order, ResourceType.validateResource r = .ok ()
  depends : ∀ ref d, d ∈ dependenciesIn c.dependencies ref ↔ Precedes c.declared d ref

/-- What stands under display forms of a catalog has these. -/
theorem Keyed.displays {c : Catalog} (keyed : c.Keyed) {refs : List String}
    (listed : ∀ ref ∈ refs, ref ∈ c.declared.map Resource.display) :
    (refs.filterMap c.resource?).map Resource.display = refs := by
  induction refs with
  | nil => rfl
  | cons ref refs ih =>
    obtain ⟨r, declared, rfl⟩ := List.mem_map.mp (listed ref (by simp))
    rw [List.filterMap_cons, keyed.resource? declared, List.map_cons,
      ih fun other member => listed other (by simp [member])]

/-- Resources of a catalog stand under their display forms. -/
theorem Keyed.filterMap_resource? {c : Catalog} (keyed : c.Keyed) {rs : List Resource}
    (listed : ∀ r ∈ rs, r ∈ c.declared) : (rs.map Resource.display).filterMap c.resource? = rs := by
  rw [List.filterMap_map]
  exact (List.filterMap_congr fun r member => keyed.resource? (listed r member)).trans List.filterMap_some

theorem settled_of {c : Catalog} (keyed : c.Keyed) {refs : List String} (known : c.order = some refs)
    (related : c.relations = .ok c.dependencies) (sorted : c.sort c.dependencies = .ok refs) :
    ∃ order, Settled c order := by
  obtain ⟨perm, respects⟩ := sort_ok sorted
  rw [keyed.keys] at perm
  have own : (refs.filterMap c.resource?).map Resource.display = refs :=
    keyed.displays fun ref member => perm.mem_iff.mp member
  have again := keyed.filterMap_resource? fun r member => member
  have all : (refs.filterMap c.resource?).Perm c.declared := again ▸ perm.filterMap c.resource?
  have admitted := (relations_ok_iff keyed).mp ⟨_, related⟩
  refine ⟨refs.filterMap c.resource?, ?_, all, ?_, ?_, ?_, fun ref d => mem_relations keyed related ref d⟩
  · rw [ordered, known]
  · rw [own]
    exact perm.nodup_iff.mpr keyed.nodup
  · rwa [own]
  · exact fun r member => (admitted r (all.mem_iff.mp member)).valid

/-- Each resource of an order stands after what it depends on. -/
theorem Settled.before {c : Catalog} {order : List Resource} (settled : Settled c order)
    {before after : List Resource} {r : Resource} (split : order = before ++ r :: after) {d : String}
    (depends : d ∈ c.dependenciesOf r) : d ∈ before.map Resource.display := by
  have respects := settled.respects
  rw [split, List.map_append, List.map_cons] at respects
  exact (respects.mem_before depends).resolve_left (by simp)

theorem Keyed.settled {c : Catalog} (keyed : c.Keyed) (finalized : c.finalize.1 = .ok ()) :
    ∃ order, Settled c.finalize.2 order := by
  obtain ⟨deps, order, related, sorted⟩ := Catalog.finalize_ok_iff.mp finalized
  rw [finalize_eq related sorted]
  exact settled_of (c := { c with dependencies := deps, order := some order }) keyed rfl related sorted

/-- A catalog can be finalized exactly when each of its resources is valid for its type, all items
of all relations are references to its resources, and no relation lies on a cycle. The order then
consists of its resources, each after what it depends on, and what they depend on is what the
relations say. -/
theorem finalize_correct {node : String} {rs : List Resource} {c : Catalog}
    (built : ofResources node rs = .ok c) :
    (c.finalize.1 = .ok () ↔
      (∀ r ∈ rs, ∃ type, ResourceType.get r.ref.type = .ok type ∧ type.validate r = .ok ()) ∧
      (∀ r ∈ rs, Resolves rs r "require" ∧ Resolves rs r "before") ∧
      ∀ ref, ¬ Relation.TransGen (Precedes rs) ref ref) ∧
    (c.finalize.1 = .ok () → ∃ order, c.finalize.2.ordered = .ok order ∧
      order.Perm rs ∧ (order.map Resource.display).Nodup ∧
      (∀ before r after, order = before ++ r :: after →
        ∀ d ∈ c.finalize.2.dependenciesOf r, d ∈ before.map Resource.display) ∧
      ∀ r ∈ rs, ∀ d, d ∈ c.finalize.2.dependenciesOf r ↔ Precedes rs d r.display) := by
  obtain ⟨keyed, declared⟩ := ofResources_declared built
  constructor
  · rw [keyed.finalize_ok_iff, declared]
    constructor
    · rintro ⟨admitted, acyclic⟩
      refine ⟨?_, ?_, acyclic⟩
      · exact fun r member => validateResource_ok_iff.mp (admitted r member).valid
      · exact fun r member => ⟨(admitted r member).require, (admitted r member).before⟩
    · rintro ⟨valid, resolves, acyclic⟩
      refine ⟨fun r member => ?_, acyclic⟩
      exact ⟨validateResource_ok_iff.mpr (valid r member), (resolves r member).1, (resolves r member).2⟩
  · intro finalized
    have kept : c.finalize.2.declared = rs := (finalize_declared c).trans declared
    obtain ⟨order, settled⟩ := keyed.settled finalized
    refine ⟨order, settled.ordered, kept ▸ settled.perm, settled.nodup, ?_, ?_⟩
    · exact fun before r after split d depends => settled.before split depends
    · exact fun r _ d => kept ▸ settled.depends r.display d

/-- A notice that requires another one, which is declared after it. -/
def twoNotices : List Resource :=
  [⟨{ type := "notify", name := "b" }, Table.ofList [("require", .text "Notify[a]")]⟩,
    ⟨{ type := "notify", name := "a" }, ∅⟩]

theorem finalize_correct_twoNotices : ∃ c, ofResources "script" twoNotices = .ok c ∧
    c.finalize.1 = .ok () ∧ ∃ order, c.finalize.2.ordered = .ok order ∧ order.Perm twoNotices ∧
      order.map Resource.display = ["Notify[a]", "Notify[b]"] := by
  refine ⟨_, rfl, rfl, ?_⟩
  obtain ⟨order, ordered, perm, -⟩ := (@finalize_correct "script" twoNotices _ rfl).2 rfl
  refine ⟨order, ordered, perm, ?_⟩
  cases ordered
  rfl

/-! ## Reachable catalogs -/

/-- The order and the dependencies of a reachable catalog are those of its present resources. -/
structure Coherent (c : Catalog) : Prop where
  keyed : c.Keyed
  related : ∀ refs, c.order = some refs → c.relations = .ok c.dependencies
  sorted : ∀ refs, c.order = some refs → c.sort c.dependencies = .ok refs

theorem Coherent.finalize {c : Catalog} (coherent : Coherent c) : Coherent c.finalize.2 := by
  rw [Catalog.finalize]
  cases related : c.relations with
  | error fault => exact coherent
  | ok deps =>
    have same : ({ c with dependencies := deps } : Catalog).sort deps = c.sort deps := rfl
    simp only [same]
    cases sorted : c.sort deps with
    | error fault =>
      -- An order known from before would have come from these same dependencies.
      have unknown : c.order = none := by
        cases known : c.order with
        | none => rfl
        | some refs =>
          have earlier := coherent.related refs known
          rw [related] at earlier
          cases earlier
          have before := coherent.sorted refs known
          rw [sorted] at before
          cases before
      exact ⟨coherent.keyed, fun refs known => by simp [unknown] at known,
        fun refs known => by simp [unknown] at known⟩
    | ok order =>
      refine ⟨coherent.keyed, fun refs _ => related, fun refs known => ?_⟩
      cases known
      exact sorted

theorem Reachable.coherent {c : Catalog} (reach : Reachable c) : Coherent c := by
  induction reach with
  | empty node =>
    refine ⟨?_, ?_, ?_⟩
    · intro e member
      cases member
    all_goals
      intro refs known
      cases known
  | @add c r reach ih =>
    by_cases known : r.display ∈ c.resources.keys
    · rw [add_of_mem known]
      exact ih
    · rw [add_of_not_mem known]
      refine ⟨ih.keyed.extend (extend_ok_iff.mpr ⟨known, rfl⟩), ?_, ?_⟩
      all_goals
        intro refs known
        cases known
  | finalize reach ih => exact ih.finalize

/-- A reachable catalog with an order is settled. -/
theorem Reachable.settled {c : Catalog} (reach : Reachable c) {order : List Resource}
    (ordered : c.ordered = .ok order) : Settled c order := by
  cases known : c.order with
  | none => simp [Catalog.ordered, known] at ordered
  | some refs =>
    obtain ⟨other, settled⟩ := settled_of reach.coherent.keyed known (reach.coherent.related refs known)
      (reach.coherent.sorted refs known)
    have same := settled.ordered
    rw [ordered] at same
    cases same
    exact settled

theorem Reachable.extend {c after : Catalog} {r : Resource} (reach : Reachable c) (added : c.extend r = .ok after) :
    Reachable after := by
  obtain ⟨fresh, rfl⟩ := extend_ok_iff.mp added
  have next := reach.add r
  rwa [add_of_not_mem fresh] at next

theorem Reachable.ofResources {node : String} {rs : List Resource} {c : Catalog}
    (built : ofResources node rs = .ok c) : Reachable c := by
  have grow : ∀ (rs : List Resource) (start : Catalog), Reachable start → rs.foldlM Catalog.extend start = .ok c →
      Reachable c := by
    intro rs
    induction rs with
    | nil => intro start reach built; cases built; exact reach
    | cons r rs ih =>
      intro start reach built
      rw [List.foldlM_cons, bind_eq_ok] at built
      obtain ⟨next, added, later⟩ := built
      exact ih next (reach.extend added) later
  exact grow rs (Catalog.empty node) (.empty node) built

end Converge.Catalog
