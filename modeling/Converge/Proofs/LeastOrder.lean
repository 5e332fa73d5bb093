import Converge.Proofs.Finalize

/-!
# The least order

Many orders put each resource after what it depends on. A finalized catalog has the least of them when
resources are compared by their places in the order of declaration: where another one first differs, it has a
resource that was declared later (`finalize_least`). That is so because the name taken next is always the
first of those that can be (`schedule_least`).
-/

namespace Converge.Catalog

variable {deps : String → List String}

/-! ## Names -/

/-- What is done stays done. -/
theorem schedule_extends (fuel : Nat) (done pending : List String) :
    ∃ order, (schedule deps fuel done pending).1 = done ++ order := by
  induction fuel generalizing done pending with
  | zero => exact ⟨[], by simp [schedule]⟩
  | succ fuel ih =>
    rw [schedule]
    split
    · exact ⟨[], by simp⟩
    · next ref _ =>
      obtain ⟨order, extended⟩ := ih (done ++ [ref]) (pending.erase ref)
      exact ⟨ref :: order, by rw [extended, List.append_assoc, List.singleton_append]⟩

/-- Where names are pending in ascending places and all can be taken, any other order of them is the same, or has a
later name at the first place where it differs. -/
theorem schedule_least (place : String → Nat) (fuel : Nat) {done pending other final : List String}
    (ascending : pending.Pairwise fun a b => place a < place b) (taken : schedule deps fuel done pending = (final, []))
    (perm : other.Perm pending) (respects : Respects deps done other) :
    ∃ order, final = done ++ order ∧ (order = other ∨ List.Lex (· < ·) (order.map place) (other.map place)) := by
  induction fuel generalizing done pending other with
  | zero =>
    obtain ⟨rfl, rfl⟩ := Prod.mk.inj taken
    exact ⟨[], by simp, .inl perm.eq_nil.symm⟩
  | succ fuel ih =>
    rw [schedule] at taken
    split at taken
    · next none =>
      obtain ⟨rfl, rfl⟩ := Prod.mk.inj taken
      exact ⟨[], by simp, .inl perm.eq_nil.symm⟩
    · next ref found =>
      obtain ⟨_, before, after, split, waiting⟩ := List.find?_eq_some_iff_append.mp found
      cases other with
      | nil => simp [perm.symm.eq_nil] at split
      | cons first rest =>
        obtain ⟨free, later⟩ := respects
        by_cases same : first = ref
        · subst same
          obtain ⟨order, rfl, least⟩ := ih (ascending.sublist List.erase_sublist) taken
            (List.cons_perm_iff_perm_erase.mp perm).2 later
          refine ⟨first :: order, by simp, least.imp (congrArg _) fun less => ?_⟩
          exact .cons less
        · -- The first name of the other order can be taken too, so it was not passed over.
          obtain ⟨order, extended⟩ : ∃ order, (schedule deps fuel (done ++ [ref]) (pending.erase ref)).1 =
              (done ++ [ref]) ++ order := schedule_extends fuel _ _
          rw [taken] at extended
          have member : first ∈ after := by
            have listed : first ∈ before ++ ref :: after := split ▸ perm.mem_iff.mp (by simp)
            rcases List.mem_append.mp listed with passed | rest
            · have busy := waiting first passed
              rw [List.all_eq_true.mpr fun d depends => List.contains_iff_mem.mpr (free d depends)] at busy
              cases busy
            · exact (List.mem_cons.mp rest).resolve_left same
          rw [split] at ascending
          have less := (List.pairwise_cons.mp (List.pairwise_append.mp ascending).2.1).1 first member
          exact ⟨ref :: order, by simpa using extended, .inr (.rel less)⟩

/-- Dependencies matter by their members alone. -/
theorem schedule_congr {other : String → List String} (same : ∀ ref d, d ∈ deps ref ↔ d ∈ other ref) (fuel : Nat)
    (done pending : List String) : schedule deps fuel done pending = schedule other fuel done pending := by
  have free (done : List String) : (fun ref => (deps ref).all done.contains) =
    fun ref => (other ref).all done.contains := by
    funext ref
    rw [Bool.eq_iff_iff, List.all_eq_true, List.all_eq_true]
    exact forall_congr' fun d => by rw [same]
  induction fuel generalizing done pending with
  | zero => rfl
  | succ fuel ih =>
    rw [schedule, schedule, free]
    split
    · rfl
    · exact ih _ _

/-! ## Resources -/

/-- An order of the resources of a catalog in which each stands after all that must precede it. -/
structure Sequences (c : Catalog) (order : List Resource) : Prop where
  perm : order.Perm c.declared
  after : ∀ before r later, order = before ++ r :: later →
    ∀ d, Precedes c.declared d r.display → d ∈ before.map Resource.display

def place (c : Catalog) (r : Resource) : Nat := (c.declared.map Resource.display).idxOf r.display

/-- Resources of which each stands after what it depends on have names that do. -/
theorem respects_of_after {done : List String} {order : List Resource}
    (after : ∀ before r later, order = before ++ r :: later →
      ∀ d ∈ deps r.display, d ∈ done ++ before.map Resource.display) :
    Respects deps done (order.map Resource.display) := by
  induction order generalizing done with
  | nil => trivial
  | cons r rest ih =>
    refine ⟨fun d depends => by simpa using after [] r rest rfl d depends,
      ih fun before other later split d depends => ?_⟩
    simpa using after (r :: before) other later (by rw [split, List.cons_append]) d depends

/-- Resources of a catalog in an order are known by their display forms. -/
theorem Keyed.order_inj {c : Catalog} (keyed : c.Keyed) {order other : List Resource} (perm : order.Perm c.declared)
    (perm' : other.Perm c.declared) (same : order.map Resource.display = other.map Resource.display) :
    order = other := by
  rw [← keyed.filterMap_resource? fun r => perm.mem_iff.mp, same, keyed.filterMap_resource? fun r => perm'.mem_iff.mp]

/-- The order of a finalized catalog is the least of those that put each resource after all that must precede it,
when resources are compared by their places in the order of declaration. It is the order of declaration if this is
one of them, and it depends on what precedes what alone, however that is listed. -/
theorem finalize_least {c : Catalog} (keyed : c.Keyed) (finalized : c.finalize.1 = .ok ()) :
    ∃ order, c.finalize.2.ordered = .ok order ∧ c.Sequences order ∧
      (∀ other, c.Sequences other → order = other ∨ List.Lex (· < ·) (order.map c.place) (other.map c.place)) ∧
      (c.Sequences c.declared → order = c.declared) ∧
      ∀ deps, (∀ first second, first ∈ dependenciesIn deps second ↔ Precedes c.declared first second) →
        c.sort deps = .ok (order.map Resource.display) := by
  obtain ⟨deps, refs, related, sorted⟩ := finalize_ok_iff.mp finalized
  obtain ⟨order, settled⟩ := keyed.settled finalized
  have depends : ∀ first second, first ∈ dependenciesIn deps second ↔ Precedes c.declared first second :=
    fun first second => mem_relations keyed related second first
  have perm : order.Perm c.declared := finalize_declared c ▸ settled.perm
  have listed : ∀ ref ∈ refs, ref ∈ c.declared.map Resource.display := by
    rw [← keyed.keys]
    exact fun ref member => (sort_ok sorted).1.mem_iff.mp member
  have displays : order.map Resource.display = refs := by
    have ordered := settled.ordered
    rw [finalize_eq related sorted] at ordered
    cases ordered
    exact keyed.displays listed
  have run := sort_ok_iff_schedule.mp sorted
  have respects {other : List Resource} (sequences : c.Sequences other) :
      Respects (dependenciesIn deps) [] (other.map Resource.display) :=
    respects_of_after fun before r later split d member => by
      simpa using sequences.after before r later split d ((depends d r.display).mp member)
  refine ⟨order, settled.ordered, ⟨perm, fun before r later split d precedes => ?_⟩, fun other sequences => ?_,
    fun sequences => ?_, fun deps' depends' => ?_⟩
  · have kept := (sort_ok sorted).2
    rw [← displays, split, List.map_append, List.map_cons] at kept
    exact (kept.mem_before ((depends d r.display).mpr precedes)).resolve_left (by simp)
  · have ascending := List.pairwise_map.mp (pairwise_positions c.resources.nodup (List.Sublist.refl c.resources.keys))
    obtain ⟨names, rfl, least⟩ := schedule_least (fun ref => c.resources.keys.idxOf ref) c.size ascending run
      (keyed.keys ▸ sequences.perm.map Resource.display) (respects sequences)
    rw [← displays, keyed.keys, List.map_map, List.map_map] at least
    exact least.imp_left (keyed.order_inj perm sequences.perm)
  · have enough : c.resources.keys.length ≤ c.size := by simp [size, Table.size, Table.keys]
    have inOrder := schedule_of_respects c.size enough (keyed.keys ▸ respects sequences)
    rw [run, List.nil_append, Prod.mk.injEq] at inOrder
    exact keyed.order_inj perm sequences.perm (displays.trans (inOrder.1.trans keyed.keys))
  · rw [sort_ok_iff_schedule, displays, ← run]
    exact schedule_congr (fun ref d => (depends' d ref).trans (depends d ref).symm) _ _ _

/-- Notices of which the first requires the last, and the one between them is related to none. -/
def threeNotices : List Resource :=
  [⟨{ type := "notify", name := "late" }, Table.ofList [("require", .text "Notify[early]")]⟩,
    ⟨{ type := "notify", name := "free" }, ∅⟩, ⟨{ type := "notify", name := "early" }, ∅⟩]

theorem finalize_least_threeNotices : ∃ c, ofResources "script" threeNotices = .ok c ∧ c.Keyed ∧
    c.finalize.1 = .ok () ∧ ∃ order, c.finalize.2.ordered = .ok order ∧
      order.map Resource.display = ["Notify[free]", "Notify[early]", "Notify[late]"] ∧
      ∀ other, c.Sequences other → order = other ∨ List.Lex (· < ·) [1, 2, 0] (other.map c.place) := by
  have built : ofResources "script" threeNotices = .ok _ := rfl
  have keyed := (ofResources_declared built).1
  obtain ⟨order, ordered, -, least, -⟩ := finalize_least keyed rfl
  refine ⟨_, built, keyed, rfl, order, ordered, ?_, ?_⟩
  · cases ordered
    rfl
  · cases ordered
    exact least

end Converge.Catalog
