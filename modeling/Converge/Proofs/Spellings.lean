import Converge.Proofs.Cycles
import Converge.Proofs.References

/-!
# Spellings of relations

That one resource comes before another can be written in either of them, alone or in a list, in any letters of the
types and more than once. What precedes what depends on the pairs that are written and on nothing else
(`precedes_iff`), and so does all that comes of it: the order, the dependencies, and the cycle for which a catalog is
refused (`finalize_respelled`).
-/

namespace Converge.Catalog

open Text

/-! ## What is written -/

/-- A relation of a resource lists a value: the value stands there alone, or in a list. -/
inductive Lists (r : Resource) (relation : String) : Value → Prop
  | alone {v : Value} (given : r.param? relation = some v) (present : v ≠ .null) (single : v.items? = none) :
      Lists r relation v
  | among {v item : Value} {items : List Value} (given : r.param? relation = some v) (several : v.items? = some items)
      (member : item ∈ items) : Lists r relation item

/-- A value spells a reference: it is shown as its type, in letters of any case, before its name in brackets. -/
def Spells (item : Value) (ref : Ref) : Prop :=
  ∃ text lead type trail, item.display? = some text ∧
    Ref.Written Ref.IsTypeText text.toList lead type ref.name.toList trail ∧ lower (String.ofList type) = ref.type

/-- Some resources write that the resource of one reference comes before that of another. -/
inductive Writes (rs : List Resource) : Ref → Ref → Prop
  | require {r : Resource} {item : Value} {first : Ref} (member : r ∈ rs) (listed : Lists r "require" item)
      (spelled : Spells item first) : Writes rs first r.ref
  | before {r : Resource} {item : Value} {second : Ref} (member : r ∈ rs) (listed : Lists r "before" item)
      (spelled : Spells item second) : Writes rs r.ref second

/-- Resources are all valid, and all that their relations list spells one of them. -/
structure Spelled (rs : List Resource) : Prop where
  valid : ∀ r ∈ rs, ResourceType.validateResource r = .ok ()
  require : ∀ r ∈ rs, ∀ item, Lists r "require" item → ∃ t ∈ rs, Spells item t.ref
  before : ∀ r ∈ rs, ∀ item, Lists r "before" item → ∃ t ∈ rs, Spells item t.ref

theorem mem_relationItems {r : Resource} {relation : String} {item : Value} :
    item ∈ relationItems r relation ↔ Lists r relation item := by
  rw [relationItems]
  constructor
  · intro member
    split at member
    · cases member
    · cases member
    · next v present given =>
      cases several : v.items? with
      | none =>
        rw [several, Option.getD_none, List.mem_singleton] at member
        subst member
        exact .alone given present several
      | some items =>
        rw [several, Option.getD_some] at member
        exact .among given several member
  · intro listed
    cases listed with
    | alone given present single => simp [given, single]
    | @among v _ items given several member =>
      have present : v ≠ .null := by
        rintro rfl
        cases several
      simpa [given, present, several] using member

theorem reads_iff {item : Value} {ref : Ref} : Reads item ref ↔ Spells item ref := by
  simp only [Reads, Spells, Ref.parse_ok_iff]
  constructor
  · rintro ⟨text, shown, lead, type, trail, written⟩
    exact ⟨text, lead, type, trail, shown, written⟩
  · rintro ⟨text, lead, type, trail, shown, written⟩
    exact ⟨text, shown, lead, type, trail, written⟩

theorem names_iff {r : Resource} {relation name : String} :
    Names r relation name ↔ ∃ item ref, Lists r relation item ∧ Spells item ref ∧ ref.display = name := by
  simp only [Names, mem_relationItems, reads_iff]
  constructor
  · rintro ⟨item, listed, ref, spelled, same⟩
    exact ⟨item, ref, listed, spelled, same⟩
  · rintro ⟨item, ref, listed, spelled, same⟩
    exact ⟨item, listed, ref, spelled, same⟩

/-- One display form precedes another if they are those of references that are written so. -/
theorem precedes_iff {rs : List Resource} {first second : String} : Precedes rs first second ↔
    ∃ one other, Writes rs one other ∧ one.display = first ∧ other.display = second := by
  constructor
  · rintro ⟨r, member, ⟨rfl, named⟩ | ⟨rfl, named⟩⟩
    · obtain ⟨item, ref, listed, spelled, same⟩ := names_iff.mp named
      exact ⟨ref, r.ref, .require member listed spelled, same, rfl⟩
    · obtain ⟨item, ref, listed, spelled, same⟩ := names_iff.mp named
      exact ⟨r.ref, ref, .before member listed spelled, rfl, same⟩
  · rintro ⟨one, other, written, rfl, rfl⟩
    cases written with
    | require member listed spelled =>
      exact ⟨_, member, .inl ⟨rfl, names_iff.mpr ⟨_, _, listed, spelled, rfl⟩⟩⟩
    | before member listed spelled =>
      exact ⟨_, member, .inr ⟨rfl, names_iff.mpr ⟨_, _, listed, spelled, rfl⟩⟩⟩

theorem Spelled.admitted {rs : List Resource} (spelled : Spelled rs) : ∀ r ∈ rs, Admitted rs r := by
  have found {relation : String} {r : Resource} (declared : ∀ item, Lists r relation item → ∃ t ∈ rs, Spells item t.ref) :
      Resolves rs r relation := by
    intro item member
    obtain ⟨t, listed, own⟩ := declared item (mem_relationItems.mp member)
    exact ⟨t.ref, reads_iff.mpr own, t, listed, rfl⟩
  intro r member
  exact ⟨spelled.valid r member, found (spelled.require r member), found (spelled.before r member)⟩

/-! ## What comes of it -/

/-- The order depends on the names and on the members of what they depend on. -/
theorem sort_congr {c d : Catalog} (keys : c.resources.keys = d.resources.keys) {deps deps' : Table (List String)}
    (same : ∀ ref name, name ∈ dependenciesIn deps ref ↔ name ∈ dependenciesIn deps' ref) :
    c.sort deps = d.sort deps' := by
  have size : c.size = d.size := by simpa [Catalog.size, Table.size, Table.keys] using congrArg List.length keys
  rw [sort_eq, sort_eq, keys, size, schedule_congr same]

theorem finalize_of_relations {c : Catalog} {deps : Table (List String)} (related : c.relations = .ok deps) :
    c.finalize.1 = (c.sort deps).map (fun _ => ()) ∧ c.finalize.2.dependencies = deps ∧
      ∀ refs, c.sort deps = .ok refs → c.finalize.2.ordered = .ok (refs.filterMap c.resource?) := by
  have same : ({ c with dependencies := deps } : Catalog).sort deps = c.sort deps := rfl
  simp only [finalize, related, same]
  cases sorted : c.sort deps with
  | error fault => simp [Except.map]
  | ok refs =>
    refine ⟨rfl, rfl, fun other same => ?_⟩
    cases same
    rfl

private theorem ref_lookupIn (name : String) {l m : List (String × Resource)}
    (keyed : ∀ e ∈ l, e.1 = e.2.display) (keyed' : ∀ e ∈ m, e.1 = e.2.display)
    (refs : l.map (fun e => e.2.ref) = m.map (fun e => e.2.ref)) :
    (lookupIn name l).map Resource.ref = (lookupIn name m).map Resource.ref := by
  induction l generalizing m with
  | nil =>
    rw [List.map_nil, eq_comm, List.map_eq_nil_iff] at refs
    rw [refs]
  | cons e l ih =>
    cases m with
    | nil => cases refs
    | cons f m =>
      obtain ⟨own, others⟩ := List.forall_mem_cons.mp keyed
      obtain ⟨own', others'⟩ := List.forall_mem_cons.mp keyed'
      obtain ⟨first, rest⟩ := List.cons.inj refs
      have same : e.1 = f.1 := own.trans ((congrArg Ref.display first).trans own'.symm)
      rw [lookupIn, lookupIn, same]
      split
      · exact congrArg some first
      · exact ih others others' rest

/-- In catalogs with the same references a display form is that of the same reference. -/
theorem Keyed.ref_resource? {c d : Catalog} (keyed : c.Keyed) (keyed' : d.Keyed)
    (refs : c.declared.map Resource.ref = d.declared.map Resource.ref) (name : String) :
    (c.resource? name).map Resource.ref = (d.resource? name).map Resource.ref := by
  rw [declared, declared, Table.values, Table.values, List.map_map, List.map_map] at refs
  exact ref_lookupIn name keyed keyed' refs

/-- Two catalogs with the same references in the same order that write the same pairs, in whatever way, are both
finalized or both refused for the same cycle. Their orders have the same references, and each resource depends on the
same in both. -/
theorem finalize_respelled {c d : Catalog} (reach : c.Reachable) (reach' : d.Reachable)
    (refs : c.declared.map Resource.ref = d.declared.map Resource.ref) (spelled : Spelled c.declared)
    (spelled' : Spelled d.declared)
    (same : ∀ first second, Writes c.declared first second ↔ Writes d.declared first second) :
    (c.finalize.1 = .ok () ↔ d.finalize.1 = .ok ()) ∧
    (c.finalize.1 = .ok () → ∃ order order', c.finalize.2.ordered = .ok order ∧ d.finalize.2.ordered = .ok order' ∧
      order.map Resource.ref = order'.map Resource.ref) ∧
    (∀ r r' : Resource, r.ref = r'.ref →
      ∀ name, name ∈ c.finalize.2.dependenciesOf r ↔ name ∈ d.finalize.2.dependenciesOf r') ∧
    ∀ fault, c.finalize.1 = .error fault → (∃ names, fault = .catalog (.cycle names)) ∧
      d.finalize.1 = .error fault := by
  have keyed := reach.coherent.keyed
  have keyed' := reach'.coherent.keyed
  obtain ⟨deps, related⟩ := (relations_ok_iff keyed).mpr spelled.admitted
  obtain ⟨deps', related'⟩ := (relations_ok_iff keyed').mpr spelled'.admitted
  have depends : ∀ ref name, name ∈ dependenciesIn deps ref ↔ name ∈ dependenciesIn deps' ref := by
    intro ref name
    rw [mem_relations keyed related, mem_relations keyed' related', precedes_iff, precedes_iff]
    simp only [same]
  have displays : c.declared.map Resource.display = d.declared.map Resource.display := by
    have own := congrArg (List.map Ref.display) refs
    rwa [List.map_map, List.map_map] at own
  have sorts : c.sort deps = d.sort deps' := sort_congr (by rw [keyed.keys, keyed'.keys, displays]) depends
  obtain ⟨ends, known, ordered⟩ := finalize_of_relations related
  obtain ⟨ends', known', ordered'⟩ := finalize_of_relations related'
  have alike : c.finalize.1 = d.finalize.1 := by rw [ends, ends', sorts]
  refine ⟨by rw [alike], fun finalized => ?_, fun r r' own name => ?_, fun fault refused => ⟨?_, alike ▸ refused⟩⟩
  · rw [ends] at finalized
    cases sorted : c.sort deps with
    | error fault =>
      rw [sorted] at finalized
      cases finalized
    | ok names =>
      refine ⟨_, _, ordered names sorted, ordered' names (sorts ▸ sorted), ?_⟩
      rw [List.map_filterMap, List.map_filterMap]
      exact List.filterMap_congr fun name _ => keyed.ref_resource? keyed' refs name
  · rw [dependenciesOf, dependenciesOf, known, known', Resource.display, Resource.display, own]
    exact depends _ name
  · rw [ends] at refused
    cases sorted : c.sort deps with
    | error cause =>
      obtain ⟨_, names, cycle, -⟩ := sort_refused (within_of_admitted keyed related) sorted
      rw [sorted] at refused
      cases refused
      exact ⟨names, cycle⟩
    | ok names =>
      rw [sorted] at refused
      cases refused

/-- Two notices of which the second asks, in other letters and twice, to come before the first. -/
def hurriedNotices : List Resource :=
  [⟨{ type := "notify", name := "b" }, ∅⟩,
    ⟨{ type := "notify", name := "a" },
      Table.ofList [("before", .list none [.text " nOTIFY[b]\n", .text "Notify[b]"])]⟩]

theorem finalize_respelled_hurriedNotices : ∃ c d, ofResources "script" twoNotices = .ok c ∧
    ofResources "script" hurriedNotices = .ok d ∧ d.finalize.1 = .ok () ∧
    ∃ order order', c.finalize.2.ordered = .ok order ∧ d.finalize.2.ordered = .ok order' ∧
      order.map Resource.ref = order'.map Resource.ref := by
  have built : ofResources "script" twoNotices = .ok _ := rfl
  have built' : ofResources "script" hurriedNotices = .ok _ := rfl
  have reach := Reachable.ofResources built
  have reach' := Reachable.ofResources built'
  let a : Ref := { type := "notify", name := "a" }
  let b : Ref := { type := "notify", name := "b" }
  have valid : ∀ r ∈ twoNotices ++ hurriedNotices, ResourceType.validateResource r = .ok () := by
    intro r member
    simp only [twoNotices, hurriedNotices, List.cons_append, List.nil_append, List.mem_cons, List.not_mem_nil,
      or_false] at member
    rcases member with rfl | rfl | rfl | rfl
    all_goals rfl
  have spellsA : Spells (.text "Notify[a]") a := reads_iff.mp ⟨_, rfl, eq_ok_of_toOption (by decide +kernel)⟩
  have spellsB : ∀ s ∈ [" nOTIFY[b]\n", "Notify[b]"], Spells (.text s) b := by
    intro s member
    rcases List.mem_pair.mp member with rfl | rfl
    · exact reads_iff.mp ⟨_, rfl, eq_ok_of_toOption (by decide +kernel)⟩
    · exact reads_iff.mp ⟨_, rfl, eq_ok_of_toOption (by decide +kernel)⟩
  have listed : ∀ r ∈ twoNotices, ∀ item, (Lists r "require" item ↔ r.ref = b ∧ item = .text "Notify[a]") ∧
      ¬ Lists r "before" item := by
    intro r member item
    rw [← mem_relationItems, ← mem_relationItems]
    rcases List.mem_pair.mp member with rfl | rfl
    · refine ⟨?_, List.not_mem_nil⟩
      change item ∈ [.text "Notify[a]"] ↔ _
      simp [b]
    · refine ⟨?_, List.not_mem_nil⟩
      change item ∈ [] ↔ _
      simp [b]
  have listed' : ∀ r ∈ hurriedNotices, ∀ item, ¬ Lists r "require" item ∧
      (Lists r "before" item ↔ r.ref = a ∧ ∃ s ∈ [" nOTIFY[b]\n", "Notify[b]"], item = .text s) := by
    intro r member item
    rw [← mem_relationItems, ← mem_relationItems]
    rcases List.mem_pair.mp member with rfl | rfl
    · refine ⟨List.not_mem_nil, ?_⟩
      change item ∈ [] ↔ _
      simp [a]
    · refine ⟨List.not_mem_nil, ?_⟩
      change item ∈ [.text " nOTIFY[b]\n", .text "Notify[b]"] ↔ _
      simp [a]
  have spelled : Spelled twoNotices :=
    { valid := fun r member => valid r (List.mem_append_left _ member)
      require := fun r member item inside => by
        obtain ⟨-, rfl⟩ := (listed r member item).1.mp inside
        exact ⟨⟨a, ∅⟩, by simp [twoNotices, a], spellsA⟩
      before := fun r member item inside => absurd inside (listed r member item).2 }
  have spelled' : Spelled hurriedNotices :=
    { valid := fun r member => valid r (List.mem_append_right _ member)
      require := fun r member item inside => absurd inside (listed' r member item).1
      before := fun r member item inside => by
        obtain ⟨-, s, known, rfl⟩ := (listed' r member item).2.mp inside
        exact ⟨⟨b, ∅⟩, by simp [hurriedNotices, b], spellsB s known⟩ }
  have writes : ∀ first second, Writes twoNotices first second ↔ first = a ∧ second = b := by
    intro first second
    constructor
    · intro written
      cases written with
      | @require r item _ member inside spelled =>
        obtain ⟨own, rfl⟩ := (listed r member item).1.mp inside
        exact ⟨(reads_iff.mpr spelled).unique (reads_iff.mpr spellsA), own⟩
      | @before r item _ member inside => exact absurd inside (listed r member item).2
    · rintro ⟨rfl, rfl⟩
      have member : ⟨b, Table.ofList [("require", .text "Notify[a]")]⟩ ∈ twoNotices := by simp [twoNotices, b]
      exact .require member ((listed _ member _).1.mpr ⟨rfl, rfl⟩) spellsA
  have writes' : ∀ first second, Writes hurriedNotices first second ↔ first = a ∧ second = b := by
    intro first second
    constructor
    · intro written
      cases written with
      | @require r item _ member inside => exact absurd inside (listed' r member item).1
      | @before r item _ member inside spelled =>
        obtain ⟨own, s, known, rfl⟩ := (listed' r member item).2.mp inside
        exact ⟨own, (reads_iff.mpr spelled).unique (reads_iff.mpr (spellsB s known))⟩
    · rintro ⟨rfl, rfl⟩
      have member := List.mem_of_mem_getLast? (show _ ∈ hurriedNotices.getLast? from rfl)
      exact .before member ((listed' _ member _).2.mpr ⟨rfl, "Notify[b]", by simp, rfl⟩) (spellsB _ (by simp))
  obtain ⟨-, orders, -, -⟩ := finalize_respelled reach reach' rfl spelled spelled'
    fun first second => (writes first second).trans (writes' first second).symm
  exact ⟨_, _, built, built', rfl, orders rfl⟩

end Converge.Catalog
