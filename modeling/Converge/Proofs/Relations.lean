import Mathlib.Logic.Basic
import Mathlib.Tactic.Tauto
import Converge.Catalog.Order
import Converge.Proofs.Actions

/-!
# What the relations of resources say

A resource asks in `require` for what must precede it, and in `before` for what it must precede. An
item of a relation is read as a reference. Relations are known when every resource is valid and
every item reads as the reference of a declared resource (`relations_ok_iff`); the dependencies are
then exactly the pairs that the relations name (`mem_relations`).
-/

namespace Converge.Catalog

def Reads (item : Value) (ref : Ref) : Prop :=
  ∃ text, item.display? = some text ∧ Ref.parse text = .ok ref

theorem Reads.unique {item : Value} {ref other : Ref} (reads : Reads item ref) (again : Reads item other) :
    ref = other := by
  obtain ⟨text, shown, parsed⟩ := reads
  obtain ⟨text', shown', parsed'⟩ := again
  rw [shown] at shown'
  cases shown'
  rw [parsed] at parsed'
  cases parsed'
  rfl

def Names (r : Resource) (relation target : String) : Prop :=
  ∃ item ∈ relationItems r relation, ∃ ref, Reads item ref ∧ ref.display = target

/-- Every item of a relation of a resource reads as a reference to one of some resources. -/
def Resolves (rs : List Resource) (r : Resource) (relation : String) : Prop :=
  ∀ item ∈ relationItems r relation, ∃ ref, Reads item ref ∧ ∃ t ∈ rs, t.display = ref.display

/-- The relations of one resource say that a display form precedes another. -/
def Orders (r : Resource) (first second : String) : Prop :=
  (second = r.display ∧ Names r "require" first) ∨ (first = r.display ∧ Names r "before" second)

/-- The relations of some resources say that a display form precedes another. -/
def Precedes (rs : List Resource) (first second : String) : Prop := ∃ r ∈ rs, Orders r first second

/-- A resource is valid and all that its relations name is declared. -/
structure Admitted (rs : List Resource) (r : Resource) : Prop where
  valid : ResourceType.validateResource r = .ok ()
  require : Resolves rs r "require"
  before : Resolves rs r "before"

theorem validateResource_ok_iff {r : Resource} :
    ResourceType.validateResource r = .ok () ↔
      ∃ type, ResourceType.get r.ref.type = .ok type ∧ type.validate r = .ok () := by
  rw [ResourceType.validateResource, bind_eq_ok]

/-- What a display form depends on under some dependencies. -/
def dependenciesIn (deps : Table (List String)) (ref : String) : List String := (deps.get? ref).getD []

/-- The keys of the resources are their display forms. -/
def Keyed (c : Catalog) : Prop := ∀ e ∈ c.resources.entries, e.1 = e.2.display

theorem Keyed.keys {c : Catalog} (keyed : c.Keyed) :
    c.resources.keys = c.declared.map Resource.display := by
  rw [Table.keys, declared, Table.values, List.map_map]
  exact List.map_congr_left keyed

theorem Keyed.contains_iff {c : Catalog} (keyed : c.Keyed) (ref : String) :
    c.resources.contains ref = true ↔ ∃ t ∈ c.declared, t.display = ref := by
  have missing : c.resources.get? ref = none ↔ ref ∉ c.resources.keys := Table.get?_eq_none
  rw [keyed.keys, List.mem_map] at missing
  rw [Table.contains, Option.isSome_iff_ne_none, ne_eq, missing, not_not]

/-! ## Items -/

theorem target_ok_iff {c : Catalog} (keyed : c.Keyed) (r : Resource) (item : Value) (target : String) :
    c.target r item = .ok target ↔
      ∃ ref, Reads item ref ∧ ref.display = target ∧ ∃ t ∈ c.declared, t.display = target := by
  rw [Catalog.target]
  constructor
  · intro run
    split at run
    · cases run
    · next text shown =>
      split at run
      · cases run
      · next ref parsed =>
        split at run
        · next declared =>
          cases run
          exact ⟨ref, ⟨text, shown, parsed⟩, rfl, (keyed.contains_iff _).mp declared⟩
        · cases run
  · rintro ⟨ref, ⟨text, shown, parsed⟩, rfl, declared⟩
    simp [shown, parsed, (keyed.contains_iff ref.display).mpr declared]

/-- Items in a row are found when each of them is, and what is found is what they name. -/
private theorem mapM_target {c : Catalog} (keyed : c.Keyed) (r : Resource) (items : List Value) :
    ((∃ found, items.mapM (c.target r) = .ok found) ↔
      ∀ item ∈ items, ∃ ref, Reads item ref ∧ ∃ t ∈ c.declared, t.display = ref.display) ∧
    ∀ found, items.mapM (c.target r) = .ok found →
      ∀ name, name ∈ found ↔ ∃ item ∈ items, ∃ ref, Reads item ref ∧ ref.display = name := by
  induction items with
  | nil =>
    refine ⟨by simp [pure, Except.pure], ?_⟩
    intro found run
    cases run
    simp
  | cons item items ih =>
    simp only [List.mapM_cons, bind_eq_ok]
    refine ⟨⟨?_, ?_⟩, ?_⟩
    · rintro ⟨-, name, first, rest, later, -⟩ other member
      obtain ⟨ref, reads, rfl, declared⟩ := (target_ok_iff keyed r item name).mp first
      rcases List.mem_cons.mp member with rfl | member
      · exact ⟨ref, reads, declared⟩
      · exact ih.1.mp ⟨rest, later⟩ other member
    · intro all
      obtain ⟨ref, reads, declared⟩ := all item (by simp)
      obtain ⟨rest, later⟩ := ih.1.mpr fun other member => all other (by simp [member])
      exact ⟨_, ref.display, (target_ok_iff keyed r item _).mpr ⟨ref, reads, rfl, declared⟩, rest, later, rfl⟩
    · rintro - ⟨name, first, rest, later, ⟨⟩⟩ other
      obtain ⟨ref, reads, rfl, -⟩ := (target_ok_iff keyed r item name).mp first
      rw [List.mem_cons, ih.2 rest later other]
      constructor
      · rintro (rfl | ⟨item', member, named⟩)
        · exact ⟨item, by simp, ref, reads, rfl⟩
        · exact ⟨item', by simp [member], named⟩
      · rintro ⟨item', member, ref', reads', same⟩
        rcases List.mem_cons.mp member with rfl | member
        · exact .inl (same ▸ congrArg Ref.display (reads'.unique reads))
        · exact .inr ⟨item', member, ref', reads', same⟩

theorem targets_ok_iff {c : Catalog} (keyed : c.Keyed) (r : Resource) (relation : String) :
    (∃ found, c.targets r relation = .ok found) ↔ Resolves c.declared r relation :=
  (mapM_target keyed r (relationItems r relation)).1

theorem mem_targets {c : Catalog} (keyed : c.Keyed) {r : Resource} {relation : String}
    {found : List String} (run : c.targets r relation = .ok found) (name : String) :
    name ∈ found ↔ Names r relation name :=
  (mapM_target keyed r (relationItems r relation)).2 found run name

/-! ## Dependencies -/

theorem mem_link (deps : Table (List String)) (dependent dependency ref d : String) :
    d ∈ dependenciesIn (link deps dependent dependency) ref ↔
      d ∈ dependenciesIn deps ref ∨ (ref = dependent ∧ d = dependency) := by
  by_cases same : ref = dependent
  · subst same
    simp only [dependenciesIn, link, Table.get?_insert, if_true, Option.getD_some, insertName]
    split
    · next present =>
      have member := List.contains_iff_mem.mp present
      constructor
      · exact .inl
      · rintro (earlier | ⟨-, rfl⟩)
        · exact earlier
        · exact member
    · simp
  · simp [dependenciesIn, link, same]

private theorem mem_foldl_require (dependent : String) (found : List String) (deps : Table (List String))
    (ref d : String) :
    d ∈ dependenciesIn (found.foldl (fun deps t => link deps dependent t) deps) ref ↔
      d ∈ dependenciesIn deps ref ∨ (ref = dependent ∧ d ∈ found) := by
  induction found generalizing deps with
  | nil => simp
  | cons name found ih =>
    rw [List.foldl_cons, ih, mem_link, List.mem_cons]
    tauto

private theorem mem_foldl_before (dependency : String) (found : List String) (deps : Table (List String))
    (ref d : String) :
    d ∈ dependenciesIn (found.foldl (fun deps t => link deps t dependency) deps) ref ↔
      d ∈ dependenciesIn deps ref ∨ (d = dependency ∧ ref ∈ found) := by
  induction found generalizing deps with
  | nil => simp
  | cons name found ih =>
    rw [List.foldl_cons, ih, mem_link, List.mem_cons]
    tauto

/-- One resource brings its dependencies when it is admitted. -/
theorem relate_ok_iff {c : Catalog} (keyed : c.Keyed) (deps : Table (List String)) (r : Resource) :
    (∃ after, c.relate deps r = .ok after) ↔ Admitted c.declared r := by
  simp only [relate, bind_eq_ok]
  constructor
  · rintro ⟨-, ⟨⟩, valid, required, require, followers, before, -⟩
    exact ⟨valid, (targets_ok_iff keyed r _).mp ⟨required, require⟩,
      (targets_ok_iff keyed r _).mp ⟨followers, before⟩⟩
  · rintro ⟨valid, require, before⟩
    obtain ⟨required, require⟩ := (targets_ok_iff keyed r _).mpr require
    obtain ⟨followers, before⟩ := (targets_ok_iff keyed r _).mpr before
    exact ⟨_, (), valid, required, require, followers, before, rfl⟩

/-- One resource brings the dependencies that its relations name, and no others. -/
theorem mem_relate {c : Catalog} (keyed : c.Keyed) {deps after : Table (List String)} {r : Resource}
    (run : c.relate deps r = .ok after) (ref d : String) :
    d ∈ dependenciesIn after ref ↔ d ∈ dependenciesIn deps ref ∨ Orders r d ref := by
  simp only [relate, bind_eq_ok] at run
  obtain ⟨-, -, required, require, followers, before, ⟨⟩⟩ := run
  rw [mem_foldl_before, mem_foldl_require, mem_targets keyed require, mem_targets keyed before, or_assoc]
  rfl

private theorem foldlM_relate {c : Catalog} (keyed : c.Keyed) (rs : List Resource)
    (deps : Table (List String)) :
    ((∃ after, rs.foldlM c.relate deps = .ok after) ↔ ∀ r ∈ rs, Admitted c.declared r) ∧
    ∀ after, rs.foldlM c.relate deps = .ok after →
      ∀ ref d, d ∈ dependenciesIn after ref ↔ d ∈ dependenciesIn deps ref ∨ Precedes rs d ref := by
  induction rs generalizing deps with
  | nil =>
    refine ⟨by simp [pure, Except.pure], ?_⟩
    intro after run
    cases run
    simp [Precedes]
  | cons r rs ih =>
    simp only [List.foldlM_cons, bind_eq_ok]
    refine ⟨⟨?_, ?_⟩, ?_⟩
    · rintro ⟨after, between, first, later⟩ other member
      rcases List.mem_cons.mp member with rfl | member
      · exact (relate_ok_iff keyed deps other).mp ⟨between, first⟩
      · exact (ih between).1.mp ⟨after, later⟩ other member
    · intro all
      obtain ⟨between, first⟩ := (relate_ok_iff keyed deps r).mpr (all r (by simp))
      obtain ⟨after, later⟩ := (ih between).1.mpr fun other member => all other (by simp [member])
      exact ⟨after, between, first, later⟩
    · rintro after ⟨between, first, later⟩ ref d
      rw [(ih between).2 after later, mem_relate keyed first, or_assoc]
      simp [Precedes]

/-- The relations are known when every resource is admitted. -/
theorem relations_ok_iff {c : Catalog} (keyed : c.Keyed) :
    (∃ deps, c.relations = .ok deps) ↔ ∀ r ∈ c.declared, Admitted c.declared r :=
  (foldlM_relate keyed c.declared c.unrelated).1

private theorem get?_insertAll_nil (refs : List String) (t : Table (List String))
    (empty : ∀ ref, dependenciesIn t ref = []) (ref : String) :
    dependenciesIn (t.insertAll (refs.map fun ref => (ref, []))) ref = [] := by
  induction refs generalizing t with
  | nil => exact empty ref
  | cons first refs ih =>
    refine ih (t.insert first []) fun other => ?_
    by_cases same : other = first
    · simp [dependenciesIn, same]
    · simpa [dependenciesIn, same] using empty other

theorem dependenciesIn_unrelated (c : Catalog) (ref : String) : dependenciesIn c.unrelated ref = [] :=
  get?_insertAll_nil _ _ (fun _ => rfl) ref

/-- The dependencies are the pairs that the relations name. -/
theorem mem_relations {c : Catalog} (keyed : c.Keyed) {deps : Table (List String)}
    (run : c.relations = .ok deps) (ref d : String) :
    d ∈ dependenciesIn deps ref ↔ Precedes c.declared d ref := by
  rw [(foldlM_relate keyed c.declared c.unrelated).2 deps run, dependenciesIn_unrelated]
  simp

/-- Where all resources are admitted, what precedes and what follows is declared. -/
theorem Precedes.declared {rs : List Resource} (admitted : ∀ r ∈ rs, Admitted rs r) {first second : String}
    (precedes : Precedes rs first second) :
    first ∈ rs.map Resource.display ∧ second ∈ rs.map Resource.display := by
  obtain ⟨r, member, order⟩ := precedes
  have resolved : ∀ relation, Resolves rs r relation → ∀ name, Names r relation name →
      name ∈ rs.map Resource.display := by
    rintro relation resolves name ⟨item, listed, ref, reads, rfl⟩
    obtain ⟨ref', reads', t, declared, same⟩ := resolves item listed
    rw [reads.unique reads']
    exact List.mem_map.mpr ⟨t, declared, same⟩
  have own := List.mem_map_of_mem (f := Resource.display) member
  rcases order with ⟨rfl, names⟩ | ⟨rfl, names⟩
  · exact ⟨resolved "require" (admitted r member).require first names, own⟩
  · exact ⟨own, resolved "before" (admitted r member).before second names⟩

end Converge.Catalog
