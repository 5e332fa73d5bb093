import Converge.Proofs.LeastOrder

/-!
# Refused catalogs

A catalog whose resources are all admitted is refused only for a cycle, and the names in the refusal are
exactly those of the resources on a cycle or behind one (`finalize_cycle`): such a resource is never released,
and one that is not released depends on another that is not. Whatever a catalog is refused for, its resources
and its order are as before; so is everything else unless a cycle was found, which is after the dependencies
were put in place (`finalize_refused`, `finalize_newDependencies`).
-/

namespace Converge.Catalog

/-! ## Names behind a cycle -/

variable {deps : String → List String}

/-- What is left over are names that were pending, in their order. -/
theorem schedule_sublist (fuel : Nat) (done pending : List String) :
    (schedule deps fuel done pending).2.Sublist pending := by
  induction fuel generalizing done pending with
  | zero => exact List.Sublist.refl _
  | succ fuel ih =>
    rw [schedule]
    split
    · exact List.Sublist.refl _
    · exact (ih _ _).trans List.erase_sublist

/-- Behind each of finitely many things that are all related to another one of them there is a cycle. -/
theorem exists_knot {α : Type} {R : α → α → Prop} {stuck : List α} (onward : ∀ ref ∈ stuck, ∃ d ∈ stuck, R d ref)
    {ref : α} (member : ref ∈ stuck) :
    ∃ knot, Relation.TransGen R knot knot ∧ Relation.ReflTransGen R knot ref := by
  classical
  -- What lies behind the one thing is itself such a collection.
  let Behind (d : α) : Prop := Relation.ReflTransGen R d ref
  have nonempty : stuck.filter (Behind ·) ≠ [] :=
    List.ne_nil_of_mem (a := ref) (by simpa [Behind] using ⟨member, .refl⟩)
  obtain ⟨knot, cycle⟩ := exists_cycle (R := fun d e => R d e ∧ Behind e) nonempty fun e listed => by
    obtain ⟨inside, behind⟩ : e ∈ stuck ∧ Behind e := by simpa using listed
    obtain ⟨d, inside', related⟩ := onward e inside
    exact ⟨d, by simpa using ⟨inside', behind.head related⟩, related, behind⟩
  have behind : Behind knot := by
    obtain ⟨_, -, last⟩ := Relation.TransGen.tail'_iff.mp cycle
    exact last.2
  exact ⟨knot, Relation.TransGen.mono (fun _ _ step => step.1) knot knot cycle, behind⟩

/-- In an order that respects the dependencies no name has a cycle behind it. -/
theorem Respects.not_cycle {order : List String} (respects : Respects deps [] order) (nodup : order.Nodup)
    {knot ref : String} (member : ref ∈ order)
    (path : Relation.ReflTransGen (fun first second => first ∈ deps second) knot ref) :
    ¬ Relation.TransGen (fun first second => first ∈ deps second) knot knot := by
  have back : ∀ {first second : String}, first ∈ deps second → second ∈ order → first ∈ order := by
    intro first second depends listed
    obtain ⟨before, after, rfl⟩ := List.append_of_mem listed
    exact List.mem_append_left _ ((respects.mem_before depends).resolve_left (by simp))
  have inside : knot ∈ order :=
    Relation.ReflTransGen.head_induction_on path member fun step _ later => back step later
  -- A path that ends in the order stays in it.
  have stays : ∀ {first second : String}, Relation.TransGen (fun first second => first ∈ deps second) first second →
      second ∈ order → Relation.TransGen (fun first second => second ∈ order ∧ first ∈ deps second) first second := by
    intro first second path
    induction path with
    | single step => exact fun listed => .single ⟨listed, step⟩
    | tail _ step ih => exact fun listed => (ih (back step listed)).tail ⟨listed, step⟩
  exact fun cycle => respects.acyclic nodup (fun _ _ step => step) knot (stays cycle inside)

/-- Names that are left over are those that have a cycle behind them. -/
theorem mem_schedule_left {names order left : List String} (nodup : names.Nodup)
    (within : ∀ ref d, d ∈ deps ref → d ∈ names ∧ ref ∈ names)
    (run : schedule deps names.length [] names = (order, left)) (ref : String) :
    ref ∈ left ↔ ∃ knot, Relation.TransGen (fun first second => first ∈ deps second) knot knot ∧
      Relation.ReflTransGen (fun first second => first ∈ deps second) knot ref := by
  have perm := @schedule_perm deps names.length [] names
  have respects := @schedule_respects deps names.length [] names trivial
  have stuck := @schedule_stuck deps names.length [] names le_rfl
  rw [run] at perm respects stuck
  rw [List.nil_append] at perm
  constructor
  · intro member
    have onward : ∀ other ∈ left, ∃ d ∈ left, d ∈ deps other := by
      intro other listed
      obtain ⟨d, depends, missing⟩ := stuck other listed
      have named := perm.mem_iff.mpr (within other d depends).1
      exact ⟨d, (List.mem_append.mp named).resolve_left missing, depends⟩
    exact exists_knot onward member
  · rintro ⟨knot, cycle, path⟩
    have named : ref ∈ names := by
      rcases Relation.ReflTransGen.cases_tail path with rfl | ⟨d, -, depends⟩
      · obtain ⟨d, -, depends⟩ := Relation.TransGen.tail'_iff.mp cycle
        exact (within ref d depends).2
      · exact (within ref d depends).2
    refine (List.mem_append.mp (perm.mem_iff.mpr named)).resolve_left fun taken => ?_
    exact respects.not_cycle (List.nodup_append.mp (perm.nodup_iff.mpr nodup)).1 taken path cycle

/-! ## Cycles of resources -/

/-- A display form stands on a cycle of what precedes what, or behind one. -/
def Trapped (rs : List Resource) (ref : String) : Prop :=
  ∃ knot, Relation.TransGen (Precedes rs) knot knot ∧ Relation.ReflTransGen (Precedes rs) knot ref

/-- A resource could be taken at some time: it stands in a row of declared resources of which each comes after all
that must precede it. -/
def Orderable (c : Catalog) (r : Resource) : Prop :=
  ∃ order : List Resource, r ∈ order ∧ (order.map Resource.display).Nodup ∧ (∀ other ∈ order, other ∈ c.declared) ∧
    ∀ before other later, order = before ++ other :: later →
      ∀ d, Precedes c.declared d other.display → d ∈ before.map Resource.display

/-- The names of a refused sort: what could be taken, and what is left over. -/
theorem sort_refused {c : Catalog} {deps : Table (List String)} {fault : Fault}
    (within : Within c.resources.keys deps) (refused : c.sort deps = .error fault) :
    ∃ order refs, fault = .catalog (.cycle refs) ∧ refs ≠ [] ∧ refs.Sublist c.resources.keys ∧
      (order ++ refs).Perm c.resources.keys ∧ Respects (dependenciesIn deps) [] order ∧
      ∀ ref, ref ∈ refs ↔ ∃ knot,
        Relation.TransGen (fun first second => first ∈ dependenciesIn deps second) knot knot ∧
        Relation.ReflTransGen (fun first second => first ∈ dependenciesIn deps second) knot ref := by
  have size : c.size = c.resources.keys.length := by simp [Catalog.size, Table.size, Table.keys]
  have sublist := @schedule_sublist (dependenciesIn deps) c.size [] c.resources.keys
  have perm := @schedule_perm (dependenciesIn deps) c.size [] c.resources.keys
  have respects := @schedule_respects (dependenciesIn deps) c.size [] c.resources.keys trivial
  rw [sort_eq] at refused
  split at refused
  · cases refused
  · next order refs some run =>
    cases refused
    rw [run] at sublist perm respects
    rw [size] at run
    exact ⟨order, refs, rfl, fun none => some (by rw [none]), sublist, perm, respects,
      mem_schedule_left c.resources.nodup within run⟩

/-! ## Refused catalogs -/

/-- A catalog is refused before its dependencies are known, which changes nothing, or after they were put in place. -/
theorem finalize_error {c : Catalog} {fault : Fault} (refused : c.finalize.1 = .error fault) :
    c.relations = .error fault ∧ c.finalize.2 = c ∨
    ∃ deps, c.relations = .ok deps ∧ c.sort deps = .error fault ∧ c.finalize.2 = { c with dependencies := deps } := by
  rw [finalize] at refused ⊢
  cases related : c.relations with
  | error other =>
    rw [related] at refused
    cases refused
    exact .inl ⟨rfl, rfl⟩
  | ok deps =>
    have same : ({ c with dependencies := deps } : Catalog).sort deps = c.sort deps := rfl
    simp only [related, same] at refused ⊢
    cases sorted : c.sort deps with
    | error other =>
      rw [sorted] at refused
      cases refused
      exact .inr ⟨deps, rfl, sorted, rfl⟩
    | ok order =>
      rw [sorted] at refused
      cases refused

/-- What is taken from a catalog with a cycle is what could be taken at some time. -/
theorem Keyed.orderable_iff {c : Catalog} (keyed : c.Keyed) {deps : Table (List String)}
    (related : c.relations = .ok deps) {order refs : List String} (perm : (order ++ refs).Perm c.resources.keys)
    (respects : Respects (dependenciesIn deps) [] order) (trapped : ∀ ref, ref ∈ refs ↔ Trapped c.declared ref)
    {r : Resource} (member : r ∈ c.declared) : c.Orderable r ↔ r.display ∉ refs := by
  have depends : ∀ first second, first ∈ dependenciesIn deps second ↔ Precedes c.declared first second :=
    fun first second => mem_relations keyed related second first
  constructor
  · rintro ⟨row, listed, nodup, -, after⟩ left
    obtain ⟨knot, cycle, path⟩ := (trapped r.display).mp left
    have kept : Respects (dependenciesIn deps) [] (row.map Resource.display) :=
      respects_of_after fun before other later split d member => by
        simpa using after before other later split d ((depends d other.display).mp member)
    have same : (fun first second => first ∈ dependenciesIn deps second) = Precedes c.declared :=
      funext₂ fun first second => propext (depends first second)
    exact kept.not_cycle nodup (List.mem_map_of_mem listed) (same ▸ path) (same ▸ cycle)
  · intro free
    have listed : ∀ ref ∈ order, ref ∈ c.declared.map Resource.display := fun ref taken =>
      keyed.keys ▸ perm.mem_iff.mp (List.mem_append_left _ taken)
    have own : (order.filterMap c.resource?).map Resource.display = order := keyed.displays listed
    have named : r.display ∈ order ++ refs := perm.mem_iff.mpr (keyed.keys ▸ List.mem_map_of_mem member)
    have taken : r.display ∈ order := (List.mem_append.mp named).resolve_right free
    refine ⟨order.filterMap c.resource?, List.mem_filterMap.mpr ⟨_, taken, keyed.resource? member⟩, ?_, ?_, ?_⟩
    · rw [own]
      exact (List.nodup_append.mp (perm.nodup_iff.mpr c.resources.nodup)).1
    · intro other inside
      obtain ⟨ref, -, found⟩ := List.mem_filterMap.mp inside
      exact List.mem_map_of_mem (f := Prod.snd) (Table.get?_eq_some.mp found)
    · intro before other later split d precedes
      rw [← own, split, List.map_append, List.map_cons] at respects
      exact (respects.mem_before ((depends d other.display).mpr precedes)).resolve_left (by simp)

/-- A catalog whose resources are all admitted is refused for a cycle alone. The refusal names, in the order of
declaration and without repetition, the resources on a cycle or behind one: all of each cycle, which are some, and
none that could be taken at some time. -/
theorem finalize_cycle {c : Catalog} (reach : c.Reachable) (admitted : ∀ r ∈ c.declared, Admitted c.declared r)
    {fault : Fault} (refused : c.finalize.1 = .error fault) :
    ∃ refs, fault = .catalog (.cycle refs) ∧
      fault.message = "Found dependency cycle in the following relationships: " ++ ", ".intercalate refs ∧
      refs.Sublist (c.declared.map Resource.display) ∧ refs.Nodup ∧ refs ≠ [] ∧
      (∀ ref, ref ∈ refs ↔ Trapped c.declared ref) ∧
      (∀ ref, Relation.TransGen (Precedes c.declared) ref ref → ref ∈ refs) ∧
      ∀ r ∈ c.declared, r.display ∈ refs ↔ ¬ c.Orderable r := by
  have keyed := reach.coherent.keyed
  rcases finalize_error refused with ⟨unrelated, -⟩ | ⟨deps, related, sorted, -⟩
  · obtain ⟨deps, related⟩ := (relations_ok_iff keyed).mpr admitted
    rw [related] at unrelated
    cases unrelated
  · obtain ⟨order, refs, rfl, some, sublist, perm, respects, left⟩ :=
      sort_refused (within_of_admitted keyed related) sorted
    have same : (fun first second => first ∈ dependenciesIn deps second) = Precedes c.declared :=
      funext₂ fun first second => propext (mem_relations keyed related second first)
    rw [same] at left
    refine ⟨refs, rfl, rfl, keyed.keys ▸ sublist, c.resources.nodup.sublist sublist, some, left, ?_, ?_⟩
    · exact fun ref cycle => (left ref).mpr ⟨ref, cycle, .refl⟩
    · intro r member
      rw [keyed.orderable_iff related perm respects left member, not_not]

/-- Notices of which two require each other, one requires itself, one requires a notice on a cycle, and one is
related to none. -/
def knottedNotices : List Resource :=
  [⟨{ type := "notify", name := "behind" }, Table.ofList [("require", .text "Notify[a]")]⟩,
    ⟨{ type := "notify", name := "free" }, ∅⟩,
    ⟨{ type := "notify", name := "a" }, Table.ofList [("require", .text "Notify[b]")]⟩,
    ⟨{ type := "notify", name := "b" }, Table.ofList [("require", .text "Notify[a]")]⟩,
    ⟨{ type := "notify", name := "own" }, Table.ofList [("before", .list none [.text "Notify[own]"])]⟩]

theorem finalize_cycle_knottedNotices : ∃ c, ofResources "script" knottedNotices = .ok c ∧ c.Reachable ∧
    (∀ r ∈ c.declared, Admitted c.declared r) ∧
    c.finalize.1 = .error (.catalog (.cycle ["Notify[behind]", "Notify[a]", "Notify[b]", "Notify[own]"])) ∧
    Trapped c.declared "Notify[behind]" ∧ ¬ Trapped c.declared "Notify[free]" := by
  have built : ofResources "script" knottedNotices = .ok _ := rfl
  have reach := Reachable.ofResources built
  have admitted := (relations_ok_iff reach.coherent.keyed).mp ⟨_, rfl⟩
  obtain ⟨refs, named, -, -, -, -, trapped, -⟩ := @finalize_cycle _ reach admitted
    (.catalog (.cycle ["Notify[behind]", "Notify[a]", "Notify[b]", "Notify[own]"])) rfl
  cases named
  refine ⟨_, built, reach, admitted, rfl, (trapped _).mp (by simp), fun behind => ?_⟩
  exact absurd ((trapped _).mpr behind) (by simp)

/-- A catalog that is refused keeps its resources, and is without an order as before. If a resource is not admitted
it is kept as it was. If all are, the cause is a cycle: then what a resource depends on is what the relations of the
present resources say, all else is as it was, and the catalog is refused again for the same cause. -/
theorem finalize_refused {c : Catalog} (reach : c.Reachable) {fault : Fault} (refused : c.finalize.1 = .error fault) :
    c.finalize.2.declared = c.declared ∧ c.finalize.2.ordered = c.ordered ∧
    c.ordered = .error (.catalog (.notFinalized c.node)) ∧
    ((∃ r ∈ c.declared, ¬ Admitted c.declared r) → c.finalize.2 = c) ∧
    ((∀ r ∈ c.declared, Admitted c.declared r) → (∃ refs, fault = .catalog (.cycle refs)) ∧
      c.finalize.2 = { c with dependencies := c.finalize.2.dependencies } ∧
      (∀ r d, d ∈ c.finalize.2.dependenciesOf r ↔ Precedes c.declared d r.display) ∧
      c.finalize.2.finalize = (.error fault, c.finalize.2)) := by
  have coherent := reach.coherent
  have unordered : c.ordered = .error (.catalog (.notFinalized c.node)) := by
    rw [ordered]
    cases known : c.order with
    | none => rfl
    | some refs =>
      rw [finalize_eq (coherent.related refs known) (coherent.sorted refs known)] at refused
      cases refused
  rcases finalize_error refused with ⟨unrelated, kept⟩ | ⟨deps, related, sorted, changed⟩
  · have unknown : ¬ ∀ r ∈ c.declared, Admitted c.declared r := fun admitted => by
      obtain ⟨deps, related⟩ := (relations_ok_iff coherent.keyed).mpr admitted
      rw [related] at unrelated
      cases unrelated
    rw [kept]
    exact ⟨rfl, rfl, unordered, fun _ => rfl, fun admitted => absurd admitted unknown⟩
  · have admitted := (relations_ok_iff coherent.keyed).mp ⟨deps, related⟩
    obtain ⟨_, _, cycle, -⟩ := sort_refused (within_of_admitted coherent.keyed related) sorted
    rw [changed]
    have all : ¬ ∃ r ∈ c.declared, ¬ Admitted c.declared r := by simpa using admitted
    refine ⟨rfl, rfl, unordered, fun some => absurd some all, fun _ => ?_⟩
    refine ⟨⟨_, cycle⟩, rfl, fun r d => mem_relations coherent.keyed related r.display d, ?_⟩
    have again : ({ c with dependencies := deps } : Catalog).relations = .ok deps := related
    have sorted' : ({ c with dependencies := deps } : Catalog).sort deps = .error fault := sorted
    simp only [finalize, again, sorted']

/-- A notice that is related to none. -/
def firstNotice : Resource := ⟨{ type := "notify", name := "a" }, ∅⟩

/-- A notice that is to come before the first one and after it. -/
def knottingNotice : Resource :=
  ⟨{ type := "notify", name := "b" }, Table.ofList [("require", .text "Notify[a]"), ("before", .text "Notify[a]")]⟩

theorem finalize_refused_knottingNotice : ∃ (c : Catalog) (fault : Fault), c.Reachable ∧
    c.declared = [firstNotice, knottingNotice] ∧ c.finalize.1 = .error fault ∧
    c.finalize.2.declared = c.declared ∧ c.finalize.2.ordered = c.ordered ∧
    ∀ d, d ∈ c.finalize.2.dependenciesOf knottingNotice ↔ Precedes c.declared d "Notify[b]" := by
  have built : ofResources "script" [firstNotice, knottingNotice] = .ok _ := rfl
  have reach := Reachable.ofResources built
  have admitted := (relations_ok_iff reach.coherent.keyed).mp ⟨_, rfl⟩
  obtain ⟨declared, ordered, -, -, known⟩ := @finalize_refused _ reach (.catalog (.cycle ["Notify[a]", "Notify[b]"])) rfl
  exact ⟨_, _, reach, rfl, rfl, declared, ordered, (known admitted).2.2.1 knottingNotice⟩

/-- A notice depended on nothing when its catalog was finalized. The catalog gets another one, which makes a cycle,
and is refused; now the first notice depends on that one. -/
theorem finalize_newDependencies : ∃ (c : Catalog) (fault : Fault), c.Reachable ∧ firstNotice ∈ c.declared ∧
    c.finalize.1 = .error fault ∧ c.dependenciesOf firstNotice = [] ∧
    c.finalize.2.dependenciesOf firstNotice = ["Notify[b]"] := by
  have made : (ofResources "script" [firstNotice] >>= fun c => c.finalize.2.extend knottingNotice) = .ok _ := rfl
  obtain ⟨_, built, grown⟩ := bind_eq_ok.mp made
  have reach := (Reachable.ofResources built).finalize.extend grown
  exact ⟨_, .catalog (.cycle ["Notify[a]", "Notify[b]"]), reach, List.mem_cons_self, rfl, rfl, rfl⟩

end Converge.Catalog
