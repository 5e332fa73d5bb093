import Mathlib.Data.List.Nodup
import Converge.Proofs.Relations
import Converge.Proofs.Schedule

/-!
# Taking names from a queue

A name that is taken releases those that depend on it, and one that waits for nothing more goes to the
queue at its position. At each time the queue holds exactly the names that can be taken, in order
(`Front.Tracks`), so the first of them is the one that `schedule` takes, and what is never taken is what
still waits at the end (`sort_eq`).
-/

namespace Converge.Catalog

variable {refs : List String} {deps : Table (List String)}

/-! ## Queues -/

theorem mem_enqueue {n m : Nat} {queue : List Nat} : m ∈ enqueue n queue ↔ m = n ∨ m ∈ queue := by
  induction queue with
  | nil => simp [enqueue]
  | cons first rest ih =>
    rw [enqueue]
    split
    · simp
    · simp only [List.mem_cons, ih]
      tauto

theorem pairwise_enqueue {n : Nat} {queue : List Nat} (ascending : queue.Pairwise (· < ·)) (new : n ∉ queue) :
    (enqueue n queue).Pairwise (· < ·) := by
  induction queue with
  | nil => simp [enqueue]
  | cons first rest ih =>
    obtain ⟨below, later⟩ := List.pairwise_cons.mp ascending
    obtain ⟨other, new⟩ := not_or.mp (List.mem_cons.not.mp new)
    rw [enqueue]
    split
    · refine List.pairwise_cons.mpr ⟨fun m member => ?_, ascending⟩
      rcases List.mem_cons.mp member with rfl | member
      · omega
      · have := below m member
        omega
    · refine List.pairwise_cons.mpr ⟨fun m member => ?_, ih later new⟩
      rcases mem_enqueue.mp member with rfl | member
      · omega
      · exact below m member

theorem foldr_enqueue {queue : List Nat} (ascending : queue.Pairwise (· < ·)) : queue.foldr enqueue [] = queue := by
  induction queue with
  | nil => rfl
  | cons first rest ih =>
    obtain ⟨below, later⟩ := List.pairwise_cons.mp ascending
    rw [List.foldr_cons, ih later]
    cases rest with
    | nil => rfl
    | cons second rest => rw [enqueue, if_pos (Nat.le_of_lt (below second (by simp)))]

/-- Names of a list without repetition, in its order, have ascending positions. -/
theorem pairwise_positions (nodup : refs.Nodup) {names : List String} (sublist : names.Sublist refs) :
    (names.map fun ref => refs.idxOf ref).Pairwise (· < ·) := by
  refine List.Pairwise.sublist (sublist.map _) (List.pairwise_map.mpr ?_)
  rw [List.pairwise_iff_getElem]
  intro i j _ _ lt
  rwa [nodup.idxOf_getElem, nodup.idxOf_getElem]

/-- Ascending lists with the same members are the same. -/
theorem eq_of_ascending {l m : List Nat} (first : l.Pairwise (· < ·)) (second : m.Pairwise (· < ·))
    (same : ∀ n, n ∈ l ↔ n ∈ m) : l = m :=
  ((List.perm_ext_iff_of_nodup first.nodup second.nodup).mpr same).eq_of_pairwise
    (fun _ _ _ _ lt gt => absurd gt (Nat.lt_asymm lt)) first second

/-- All that a name depends on is done. -/
def isFree (deps : Table (List String)) (done : List String) (ref : String) : Bool :=
  (dependenciesIn deps ref).all done.contains

theorem isFree_iff {done : List String} {ref : String} :
    isFree deps done ref = true ↔ ∀ d ∈ dependenciesIn deps ref, d ∈ done := by
  simp [isFree]

namespace Front

variable {f : Front}

/-! ## Releasing -/

theorem waitsFor_release (taken : String) (f : Front) (dependent other : String) :
    (release refs taken f dependent).waitsFor other =
      if other = dependent then (f.waitsFor dependent).filter (· != taken) else f.waitsFor other := by
  simp only [waitsFor, release, Table.get?_insert]
  split <;> rfl

theorem mem_ready_release {taken dependent : String} {n : Nat} : n ∈ (release refs taken f dependent).ready ↔
    n ∈ f.ready ∨ (f.waitsFor dependent).filter (· != taken) = [] ∧ refs.idxOf dependent = n := by
  simp only [release, List.isEmpty_iff]
  split
  · next none => simp [mem_enqueue, none, or_comm, eq_comm]
  · next some => simp [some]

/-- What a front becomes when a name releases several others. -/
structure Released (refs : List String) (taken : String) (dependents : List String) (f after : Front) : Prop where
  order : after.order = f.order
  waits : ∀ other, after.waitsFor other =
    if other ∈ dependents then (f.waitsFor other).filter (· != taken) else f.waitsFor other
  ready : ∀ n, n ∈ after.ready ↔
    n ∈ f.ready ∨ ∃ other ∈ dependents, (f.waitsFor other).filter (· != taken) = [] ∧ refs.idxOf other = n
  ascending : after.ready.Pairwise (· < ·)

theorem released (taken : String) (dependents : List String) (nodup : dependents.Nodup)
    (inside : ∀ other ∈ dependents, other ∈ refs) (ascending : f.ready.Pairwise (· < ·))
    (new : ∀ other ∈ dependents, refs.idxOf other ∉ f.ready) :
    Released refs taken dependents f (dependents.foldl (release refs taken) f) := by
  induction dependents generalizing f with
  | nil => exact ⟨rfl, by simp, by simp, ascending⟩
  | cons first rest ih =>
    obtain ⟨apart, nodup⟩ := List.nodup_cons.mp nodup
    have kept : ∀ other ∈ rest, (release refs taken f first).waitsFor other = f.waitsFor other := by
      rintro other member
      rw [waitsFor_release, if_neg (by rintro rfl; exact apart member)]
    have still : (release refs taken f first).ready.Pairwise (· < ·) := by
      simp only [release]
      split
      · exact pairwise_enqueue ascending (new first (by simp))
      · exact ascending
    have later := ih (f := release refs taken f first) nodup (fun other member => inside other (by simp [member])) still
      fun other member => by
        rw [mem_ready_release, not_or]
        refine ⟨new other (by simp [member]), fun ⟨_, same⟩ => apart ?_⟩
        exact ((List.idxOf_inj (inside first (by simp))).mp same) ▸ member
    refine ⟨later.order, fun other => ?_, fun n => ?_, later.ascending⟩
    · rw [List.foldl_cons, later.waits]
      by_cases same : other = first
      · subst same
        simp [apart, waitsFor_release]
      · simp [same, waitsFor_release]
    · rw [List.foldl_cons, later.ready, mem_ready_release, or_assoc, List.exists_mem_cons_iff]
      refine or_congr_right (or_congr_right (exists_congr fun other => and_congr_right fun member => ?_))
      rw [kept other member]

/-! ## Following the schedule -/

/-- Names of a list that have not been taken. -/
def untaken (refs order : List String) : List String := refs.filter fun ref => !order.contains ref

theorem mem_untaken {order : List String} {ref : String} : ref ∈ untaken refs order ↔ ref ∈ refs ∧ ref ∉ order := by
  simp [untaken]

theorem erase_untaken (nodup : refs.Nodup) (order : List String) (ref : String) :
    (untaken refs order).erase ref = untaken refs (order ++ [ref]) := by
  rw [untaken, untaken, (nodup.filter _).erase_eq_filter, List.filter_filter]
  refine List.filter_congr fun other _ => ?_
  by_cases same : other = ref <;> simp [same]

/-- The names that have not been taken and wait for nothing, in order. -/
def free (refs : List String) (deps : Table (List String)) (order : List String) : List String :=
  (untaken refs order).filter (isFree deps order)

theorem mem_free {order : List String} {ref : String} : ref ∈ free refs deps order ↔
    (ref ∈ refs ∧ ref ∉ order) ∧ ∀ d ∈ dependenciesIn deps ref, d ∈ order := by
  rw [free, List.mem_filter, mem_untaken, isFree_iff]

theorem free_sublist (order : List String) : (free refs deps order).Sublist refs :=
  List.filter_sublist.trans List.filter_sublist

theorem mem_dependents {ref other : String} :
    other ∈ dependents refs deps ref ↔ other ∈ refs ∧ ref ∈ dependenciesIn deps other := by
  simp [dependents, dependenciesIn]

/-- A name waits for what it depends on and has not been taken, the queue holds the positions of the names that
wait for nothing, and what has been taken depends on nothing else. -/
structure Tracks (refs : List String) (deps : Table (List String)) (f : Front) : Prop where
  waits : ∀ ref ∈ refs, f.waitsFor ref = (dependenciesIn deps ref).filter fun d => !f.order.contains d
  ready : f.ready = (free refs deps f.order).map fun ref => refs.idxOf ref
  closed : ∀ ref ∈ f.order, ∀ d ∈ dependenciesIn deps ref, d ∈ f.order

theorem tracks_start (nodup : refs.Nodup) (deps : Table (List String)) : Tracks refs deps (start refs deps) := by
  have order : (start refs deps).order = [] := rfl
  have none : free refs deps [] = refs.filter fun ref => (dependenciesIn deps ref).isEmpty := by
    rw [free, untaken, List.filter_filter]
    refine List.filter_congr fun ref _ => ?_
    rw [Bool.eq_iff_iff, Bool.and_eq_true, isFree_iff, List.isEmpty_iff, List.eq_nil_iff_forall_not_mem]
    simp
  refine ⟨fun ref _ => ?_, ?_, ?_⟩
  · simp only [order, List.contains_nil, Bool.not_false, List.filter_true]
    rfl
  · rw [order, none]
    exact foldr_enqueue (pairwise_positions nodup List.filter_sublist)
  · simp [order]

/-- What can be taken after a name: what could be taken beside it, and what depended on it and waits no more. -/
theorem mem_free_snoc {order rest : List String} {ref : String}
    (closed : ∀ ref ∈ order, ∀ d ∈ dependenciesIn deps ref, d ∈ order)
    (nodup : refs.Nodup) (split : free refs deps order = ref :: rest) (other : String) :
    other ∈ free refs deps (order ++ [ref]) ↔ other ∈ rest ∨ other ∈ dependents refs deps ref ∧
      ∀ d ∈ dependenciesIn deps other, d ∈ order ++ [ref] := by
  have own : ref ∈ free refs deps order := by simp [split]
  obtain ⟨⟨listed, new⟩, ready⟩ := mem_free.mp own
  have apart : ref ∉ rest := (List.nodup_cons.mp (split ▸ (nodup.sublist (free_sublist order)))).1
  constructor
  · intro member
    obtain ⟨⟨inside, untaken⟩, waits⟩ := mem_free.mp member
    simp only [List.mem_append, List.mem_singleton, not_or] at untaken
    by_cases depends : ref ∈ dependenciesIn deps other
    · exact .inr ⟨mem_dependents.mpr ⟨inside, depends⟩, waits⟩
    · have before : other ∈ free refs deps order := by
        refine mem_free.mpr ⟨⟨inside, untaken.1⟩, fun d member => ?_⟩
        rcases List.mem_append.mp (waits d member) with earlier | last
        · exact earlier
        · exact absurd (List.mem_singleton.mp last ▸ member) depends
      rw [split] at before
      exact .inl ((List.mem_cons.mp before).resolve_left untaken.2)
  · rintro (beside | ⟨depends, waits⟩)
    · have before : other ∈ free refs deps order := by simp [split, beside]
      obtain ⟨⟨inside, untaken⟩, ready⟩ := mem_free.mp before
      have different : other ≠ ref := fun same => apart (same ▸ beside)
      exact mem_free.mpr ⟨⟨inside, by simp [untaken, different]⟩, fun d member => by simp [ready d member]⟩
    · obtain ⟨inside, depends⟩ := mem_dependents.mp depends
      -- What has been taken depends on nothing that has not.
      have untaken : other ∉ order := fun taken => new (closed other taken ref depends)
      have different : other ≠ ref := by
        rintro rfl
        exact new (ready other depends)
      exact mem_free.mpr ⟨⟨inside, by simp [untaken, different]⟩, waits⟩

/-- The queue holds again what can be taken when its first name has been. -/
theorem Tracks.advance (nodup : refs.Nodup) (tracks : Tracks refs deps f) {ref : String} {rest : List String}
    (split : free refs deps f.order = ref :: rest) :
    let after := f.advance refs deps (refs.idxOf ref) (rest.map fun ref => refs.idxOf ref)
    after.order = f.order ++ [ref] ∧ Tracks refs deps after := by
  have own : ref ∈ free refs deps f.order := by simp [split]
  obtain ⟨⟨listed, new⟩, ready⟩ := mem_free.mp own
  have found : refs.getD (refs.idxOf ref) "" = ref := by
    simp [List.getD_eq_getElem?_getD, List.getElem?_idxOf listed]
  have sublist : (ref :: rest).Sublist refs := split ▸ free_sublist f.order
  let taken : Front := { f with ready := rest.map fun ref => refs.idxOf ref, order := f.order ++ [ref] }
  have bound : ∀ other ∈ dependents refs deps ref, refs.idxOf other ∉ taken.ready := by
    intro other member same
    obtain ⟨inside, depends⟩ := mem_dependents.mp member
    obtain ⟨beside, within, same⟩ := List.mem_map.mp same
    obtain rfl := (List.idxOf_inj inside).mp same.symm
    have before : other ∈ free refs deps f.order := by simp [split, within]
    exact new ((mem_free.mp before).2 ref depends)
  have later : Released refs ref (dependents refs deps ref) taken _ :=
    released ref (dependents refs deps ref) (nodup.filter _) (fun other member => (mem_dependents.mp member).1)
      (pairwise_positions nodup ((List.sublist_cons_self ref rest).trans sublist)) bound
  simp only [Front.advance, found]
  have waits : ∀ other ∈ refs, taken.waitsFor other = (dependenciesIn deps other).filter fun d => !f.order.contains d :=
    tracks.waits
  refine ⟨later.order, ⟨fun other member => ?_, ?_, ?_⟩⟩
  · rw [later.order, later.waits, waits other member]
    split
    · rw [List.filter_filter]
      refine List.filter_congr fun d _ => ?_
      by_cases same : d = ref <;> simp [taken, same]
    · next independent =>
      refine List.filter_congr fun d depends => ?_
      have different : d ≠ ref := fun same => independent (mem_dependents.mpr ⟨member, same ▸ depends⟩)
      simp [taken, different]
  · refine eq_of_ascending later.ascending (pairwise_positions nodup (free_sublist _)) fun n => ?_
    have released : ∀ other ∈ dependents refs deps ref, (taken.waitsFor other).filter (· != ref) = [] ↔
        ∀ d ∈ dependenciesIn deps other, d ∈ f.order ++ [ref] := by
      intro other member
      rw [waits other (mem_dependents.mp member).1]
      simp only [List.filter_filter, List.filter_eq_nil_iff, List.mem_append, List.mem_singleton]
      refine forall₂_congr fun d _ => ?_
      simp
      tauto
    rw [later.ready, later.order, List.mem_map, List.mem_map]
    simp only [taken, mem_free_snoc tracks.closed nodup split, or_and_right, exists_or, and_assoc]
    refine or_congr_right (exists_congr fun other => and_congr_right fun member => ?_)
    rw [released other member]
  · intro other member d depends
    rw [later.order] at member ⊢
    rcases List.mem_append.mp member with earlier | last
    · exact List.mem_append_left _ (tracks.closed other earlier d depends)
    · rw [List.mem_singleton.mp last] at depends
      exact List.mem_append_left _ (ready d depends)

/-- When nothing can be taken, the names that still wait are those that have not been taken. -/
theorem Tracks.waiting (tracks : Tracks refs deps f)
    (stuck : ∀ ref ∈ untaken refs f.order, ∃ d ∈ dependenciesIn deps ref, d ∉ f.order) :
    refs.filter (fun ref => !(f.waitsFor ref).isEmpty) = untaken refs f.order := by
  refine List.filter_congr fun ref member => ?_
  rw [tracks.waits ref member, Bool.eq_iff_iff]
  simp only [Bool.not_eq_true', List.isEmpty_eq_false_iff, ne_eq, List.filter_eq_nil_iff, not_forall]
  constructor
  · rintro ⟨d, depends, missing⟩
    by_contra taken
    exact absurd (tracks.closed ref (by simpa using taken) d depends) (by simpa using missing)
  · intro untaken
    obtain ⟨d, depends, missing⟩ := stuck ref (mem_untaken.mpr ⟨member, by simpa using untaken⟩)
    exact ⟨d, depends, by simpa using missing⟩

/-- Taking names from the queue is taking them as they are scheduled. -/
theorem schedule_take (nodup : refs.Nodup) (fuel : Nat) {f : Front} (tracks : Tracks refs deps f) :
    schedule (dependenciesIn deps) fuel f.order (untaken refs f.order) =
      ((f.take refs deps fuel).order, untaken refs (f.take refs deps fuel).order) ∧
    Tracks refs deps (f.take refs deps fuel) := by
  induction fuel generalizing f with
  | zero => exact ⟨rfl, tracks⟩
  | succ fuel ih =>
    have first : (untaken refs f.order).find? (fun ref => (dependenciesIn deps ref).all f.order.contains) =
        (free refs deps f.order).head? := List.head?_filter.symm
    have queue := tracks.ready
    rw [schedule, take, first]
    cases split : free refs deps f.order with
    | nil =>
      rw [split, List.map_nil] at queue
      simp only [queue]
      exact ⟨rfl, tracks⟩
    | cons ref rest =>
      obtain ⟨order, next⟩ := tracks.advance nodup split
      rw [split, List.map_cons] at queue
      simp only [queue, List.head?_cons, erase_untaken nodup, ← order]
      exact ih next

end Front

/-! ## Sorting -/

/-- A catalog is sorted as its names are scheduled. -/
theorem sort_eq (c : Catalog) (deps : Table (List String)) : c.sort deps =
    match schedule (dependenciesIn deps) c.size [] c.resources.keys with
    | (order, []) => .ok order
    | (_, stuck) => .error (.catalog (.cycle stuck)) := by
  have nodup : c.resources.keys.Nodup := c.resources.nodup
  have size : c.size = c.resources.keys.length := by simp [Catalog.size, Table.size, Table.keys]
  obtain ⟨run, tracks⟩ := Front.schedule_take nodup c.size (Front.tracks_start nodup deps)
  have perm := @schedule_perm (dependenciesIn deps) c.size [] c.resources.keys
  have stuck := @schedule_stuck (dependenciesIn deps) c.size [] c.resources.keys (Nat.le_of_eq size.symm)
  have start : Front.untaken c.resources.keys (Front.start c.resources.keys deps).order = c.resources.keys := by
    simp [Front.untaken, Front.start]
  rw [start] at run
  change schedule (dependenciesIn deps) c.size [] c.resources.keys = _ at run
  rw [run, List.nil_append] at perm
  rw [run] at stuck
  rw [sort, ← size, run]
  generalize (Front.start c.resources.keys deps).take c.resources.keys deps c.size = f at run tracks perm stuck ⊢
  have count : f.order.length + (Front.untaken c.resources.keys f.order).length = c.size := by
    rw [size, ← perm.length_eq, List.length_append]
  rw [tracks.waiting stuck]
  cases left : Front.untaken c.resources.keys f.order with
  | nil => rw [if_pos (by simpa [left] using count)]
  | cons ref rest =>
    rw [left, List.length_cons] at count
    have short : f.order.length ≠ c.size := by omega
    rw [if_neg short]

theorem sort_ok_iff_schedule {c : Catalog} {deps : Table (List String)} {order : List String} :
    c.sort deps = .ok order ↔ schedule (dependenciesIn deps) c.size [] c.resources.keys = (order, []) := by
  rw [sort_eq]
  constructor
  · intro sorted
    split at sorted
    · next taken run =>
      cases sorted
      exact run
    · cases sorted
  · intro run
    rw [run]

end Converge.Catalog
