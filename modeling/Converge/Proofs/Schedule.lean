import Mathlib.Data.Fintype.EquivFin
import Mathlib.Data.Set.Finite.Basic
import Mathlib.Order.WellFounded
import Converge.Catalog.Order

/-!
# The order of evaluation

`schedule` takes names one after the other, each once all that it depends on has been taken
(`schedule_respects`), and loses none (`schedule_perm`). What it cannot take depends on names that
are not taken either (`schedule_stuck`); among finitely many names that is a cycle
(`exists_cycle`), and an order that respects the dependencies has none (`Respects.acyclic`).
-/

namespace Converge.Catalog

/-- Names taken from those pending, again and again the first whose dependencies are all done; the
second list is what cannot be taken. -/
def schedule (deps : String → List String) :
    (fuel : Nat) → (done pending : List String) → List String × List String
  | 0, done, pending => (done, pending)
  | fuel + 1, done, pending =>
    match pending.find? fun ref => (deps ref).all done.contains with
    | none => (done, pending)
    | some ref => schedule deps fuel (done ++ [ref]) (pending.erase ref)

variable {deps : String → List String}

/-- Every name of a list stands after all that it depends on, or that is among names done before. -/
def Respects (deps : String → List String) : (done order : List String) → Prop
  | _, [] => True
  | done, ref :: rest => (∀ d ∈ deps ref, d ∈ done) ∧ Respects deps (done ++ [ref]) rest

/-- The last name of an order depends on names before it. -/
theorem Respects.append {done order : List String} {ref : String} (respects : Respects deps done order)
    (ready : ∀ d ∈ deps ref, d ∈ done ++ order) : Respects deps done (order ++ [ref]) := by
  induction order generalizing done with
  | nil => exact ⟨by simpa using ready, trivial⟩
  | cons first rest ih => exact ⟨respects.1, ih respects.2 (by simpa using ready)⟩

/-- A name of an order depends on names done before and on names that stand before it. -/
theorem Respects.mem_before {done before after : List String} {ref d : String}
    (respects : Respects deps done (before ++ ref :: after)) (depends : d ∈ deps ref) :
    d ∈ done ∨ d ∈ before := by
  induction before generalizing done with
  | nil => exact .inl (respects.1 d depends)
  | cons first rest ih =>
    rcases ih respects.2 with earlier | between
    · rcases List.mem_append.mp earlier with earlier | same
      · exact .inl earlier
      · exact .inr (by simp_all)
    · exact .inr (List.mem_cons_of_mem first between)

/-! ## Taking names -/

/-- What is taken is appended to what was done, in an order that respects the dependencies. -/
theorem schedule_respects (fuel : Nat) {done pending : List String} (respects : Respects deps [] done) :
    Respects deps [] (schedule deps fuel done pending).1 := by
  induction fuel generalizing done pending with
  | zero => exact respects
  | succ fuel ih =>
    rw [schedule]
    split
    · exact respects
    · next ref found =>
      have ready := List.find?_some found
      rw [List.all_eq_true] at ready
      exact ih (respects.append fun d member => by simpa using ready d member)

/-- No name is lost and none is taken twice. -/
theorem schedule_perm (fuel : Nat) (done pending : List String) :
    ((schedule deps fuel done pending).1 ++ (schedule deps fuel done pending).2).Perm
      (done ++ pending) := by
  induction fuel generalizing done pending with
  | zero => exact List.Perm.refl _
  | succ fuel ih =>
    rw [schedule]
    split
    · exact List.Perm.refl _
    · next ref found =>
      have member := List.mem_of_find?_eq_some found
      refine (ih (done ++ [ref]) (pending.erase ref)).trans ?_
      rw [List.append_assoc]
      exact List.Perm.append_left done (List.perm_cons_erase member).symm

/-- With fuel for every name, what is left over depends on names that are not taken. -/
theorem schedule_stuck (fuel : Nat) (done pending : List String) (enough : pending.length ≤ fuel) :
    ∀ ref ∈ (schedule deps fuel done pending).2, ∃ d ∈ deps ref,
      d ∉ (schedule deps fuel done pending).1 := by
  induction fuel generalizing done pending with
  | zero =>
    have empty : pending = [] := List.length_eq_zero_iff.mp (by omega)
    simp [schedule, empty]
  | succ fuel ih =>
    rw [schedule]
    split
    · next none =>
      intro ref member
      have waiting := List.find?_eq_none.mp none ref member
      simpa using waiting
    · next ref found =>
      have member := List.mem_of_find?_eq_some found
      have shorter := List.length_erase_of_mem member
      have some : 0 < pending.length := List.length_pos_of_mem member
      exact ih (done ++ [ref]) (pending.erase ref) (by omega)

/-- Names in an order that respects the dependencies are taken in that order. -/
theorem schedule_of_respects (fuel : Nat) {done pending : List String} (enough : pending.length ≤ fuel)
    (respects : Respects deps done pending) : schedule deps fuel done pending = (done ++ pending, []) := by
  induction fuel generalizing done pending with
  | zero => simp [schedule, List.length_eq_zero_iff.mp (Nat.le_zero.mp enough)]
  | succ fuel ih =>
    cases pending with
    | nil => simp [schedule]
    | cons ref pending =>
      obtain ⟨ready, later⟩ := respects
      have free : (deps ref).all done.contains = true := by simpa using ready
      simpa [schedule, free] using ih (Nat.le_of_succ_le_succ enough) later

/-! ## Cycles -/

/-- Finitely many things, each of them related to one before it, stand on or behind a cycle. -/
theorem exists_cycle {α : Type} {R : α → α → Prop} {stuck : List α} (some : stuck ≠ [])
    (onward : ∀ ref ∈ stuck, ∃ d ∈ stuck, R d ref) : ∃ ref, Relation.TransGen R ref ref := by
  by_contra acyclic
  rw [not_exists] at acyclic
  -- Without a cycle the paths order the finitely many things, and a least one has nothing before it.
  let Before (a b : { ref // ref ∈ stuck }) : Prop := Relation.TransGen R a.1 b.1
  have finite : Finite { ref // ref ∈ stuck } := List.finite_toSet stuck
  have trans : IsTrans _ Before := ⟨fun _ _ _ first second => first.trans second⟩
  have irrefl : Std.Irrefl Before := ⟨fun ref cycle => acyclic ref.1 cycle⟩
  have wellFounded : WellFounded Before := Finite.wellFounded_of_trans_of_irrefl Before
  obtain ⟨first, member⟩ := List.exists_mem_of_ne_nil stuck some
  obtain ⟨least, -, minimal⟩ := wellFounded.has_min Set.univ ⟨⟨first, member⟩, trivial⟩
  obtain ⟨d, listed, related⟩ := onward least.1 least.2
  exact minimal ⟨d, listed⟩ trivial (.single related)

/-- An order without repetition that respects the dependencies has none of them on a cycle. -/
theorem Respects.acyclic {order : List String} (respects : Respects deps [] order) (nodup : order.Nodup)
    {R : String → String → Prop} (within : ∀ a b, R a b → b ∈ order ∧ a ∈ deps b) (ref : String) :
    ¬ Relation.TransGen R ref ref := by
  -- Every step leads to a later place in the order, so no path comes back.
  have climbs : ∀ a b, R a b → order.idxOf a < order.idxOf b := by
    intro a b related
    obtain ⟨listed, depends⟩ := within a b related
    obtain ⟨before, after, rfl⟩ := List.append_of_mem listed
    have earlier : a ∈ before := by simpa using respects.mem_before depends
    have fresh : b ∉ before := by
      rw [List.nodup_append] at nodup
      exact fun member => nodup.2.2 b member b (by simp) rfl
    rw [List.idxOf_append_of_mem earlier, List.idxOf_append_of_notMem fresh]
    have inside := List.idxOf_lt_length_iff.mpr earlier
    omega
  have rises : ∀ a b, Relation.TransGen R a b → order.idxOf a < order.idxOf b := by
    intro a b path
    induction path with
    | single step => exact climbs _ _ step
    | tail _ step ih => exact ih.trans (climbs _ _ step)
  intro cycle
  exact lt_irrefl _ (rises ref ref cycle)

end Converge.Catalog
