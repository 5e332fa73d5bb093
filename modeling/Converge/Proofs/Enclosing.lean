import Converge.Proofs.LoadedValues
import Converge.Proofs.Sameness

/-!
# Collections inside themselves

A value in which collections stand again only inside themselves is not changed when one is restored in it
(`restore_of_closed`), and a collection that was restored wherever it stands again is such a value (`closed_restore`).
Around a part of a value there are the collections that it stands in; each is restored, the innermost first
(`within`), and what comes out is whole in itself (`closed_within`).
-/

namespace Converge

namespace Value

/-! ## Collections inside themselves -/

mutual

/-- Collections stand again only inside themselves, or are those of some numbers. -/
def Closed (bound : List Nat) : Value → Prop
  | list share items => ClosedAll (share.toList ++ bound) items
  | tuple items => ClosedAll bound items
  | map share entries => ClosedEntries (share.toList ++ bound) entries
  | again n _ => n ∈ bound
  | _ => True

/-- Collections stand again only inside themselves, for several values. -/
def ClosedAll (bound : List Nat) : List Value → Prop
  | [] => True
  | v :: rest => Closed bound v ∧ ClosedAll bound rest

/-- Collections stand again only inside themselves, for the values of keys. -/
def ClosedEntries (bound : List Nat) : List (Value × Value) → Prop
  | [] => True
  | (_, v) :: rest => Closed bound v ∧ ClosedEntries bound rest

end

theorem closedAll_iff {bound : List Nat} {items : List Value} :
    ClosedAll bound items ↔ ∀ v ∈ items, Closed bound v := by
  induction items with
  | nil => simp [ClosedAll]
  | cons v rest ih => simp [ClosedAll, ih]

theorem closedEntries_iff {bound : List Nat} {entries : List (Value × Value)} :
    ClosedEntries bound entries ↔ ∀ e ∈ entries, Closed bound e.2 := by
  induction entries with
  | nil => simp [ClosedEntries]
  | cons e rest ih => simp [ClosedEntries, ih]

theorem bound_inside {bound more : List Nat} (share : Share) (sub : bound ⊆ more) :
    share.toList ++ bound ⊆ share.toList ++ more :=
  List.append_subset.mpr ⟨List.subset_append_left _ _, List.subset_append_of_subset_right _ sub⟩

mutual

theorem Closed.mono {bound more : List Nat} (sub : bound ⊆ more) (v : Value) (closed : Closed bound v) :
    Closed more v := by
  match v with
  | .list share items => exact ClosedAll.mono (bound_inside share sub) items closed
  | .tuple items => exact ClosedAll.mono sub items closed
  | .map share entries => exact ClosedEntries.mono (bound_inside share sub) entries closed
  | .again n shape => exact sub closed
  | .null | .bool _ | .int _ | .float _ | .text _ | .bytes _ | .date .. | .moment .. | .set .. | .foreign => trivial

theorem ClosedAll.mono {bound more : List Nat} (sub : bound ⊆ more) (items : List Value)
    (closed : ClosedAll bound items) : ClosedAll more items := by
  match items with
  | [] => trivial
  | v :: rest => exact ⟨Closed.mono sub v closed.1, ClosedAll.mono sub rest closed.2⟩

theorem ClosedEntries.mono {bound more : List Nat} (sub : bound ⊆ more) (entries : List (Value × Value))
    (closed : ClosedEntries bound entries) : ClosedEntries more entries := by
  match entries with
  | [] => trivial
  | (_, v) :: rest => exact ⟨Closed.mono sub v closed.1, ClosedEntries.mono sub rest closed.2⟩

end

variable {number : Nat} {whole : Value}

theorem free_inside {bound : List Nat} {share : Share} (other : share ≠ some number) (free : number ∉ bound) :
    number ∉ share.toList ++ bound := by
  cases share with
  | none => exact free
  | some n => simpa [free] using fun same => other (congrArg some same.symm)

mutual

/-- A collection is restored only where it stands again. -/
theorem restore_of_closed {bound : List Nat} (free : number ∉ bound) (v : Value) (closed : Closed bound v) :
    restore number whole v = v := by
  match v with
  | .list share items =>
    rw [restore]
    split
    · rfl
    · next other =>
      rw [restoreAll_of_closed (free_inside other free) items closed]
  | .tuple items => rw [restore, restoreAll_of_closed free items closed]
  | .map share entries =>
    rw [restore]
    split
    · rfl
    · next other =>
      rw [restoreEntries_of_closed (free_inside other free) entries closed]
  | .again n shape =>
    rw [restore, if_neg]
    rintro rfl
    exact free closed
  | .null | .bool _ | .int _ | .float _ | .text _ | .bytes _ | .date .. | .moment .. | .set .. | .foreign => rfl

theorem restoreAll_of_closed {bound : List Nat} (free : number ∉ bound) (items : List Value)
    (closed : ClosedAll bound items) : restoreAll number whole items = items := by
  match items with
  | [] => rfl
  | v :: rest => rw [restoreAll, restore_of_closed free v closed.1, restoreAll_of_closed free rest closed.2]

theorem restoreEntries_of_closed {bound : List Nat} (free : number ∉ bound) (entries : List (Value × Value))
    (closed : ClosedEntries bound entries) : restoreEntries number whole entries = entries := by
  match entries with
  | [] => rfl
  | (k, v) :: rest =>
    rw [restoreEntries, restore_of_closed free v closed.1, restoreEntries_of_closed free rest closed.2]

end

theorem around_inside {bound : List Nat} {share : Share} : share.toList ++ number :: bound ⊆ number ::
    (share.toList ++ bound) := by
  intro n member
  simp only [List.mem_append, List.mem_cons] at member ⊢
  exact or_left_comm.mp member

mutual

/-- A collection that was restored stands again only inside itself. -/
theorem closed_restore {bound : List Nat} (wholeClosed : Closed bound whole) (v : Value)
    (closed : Closed (number :: bound) v) : Closed bound (restore number whole v) := by
  match v with
  | .list share items =>
    rw [restore]
    split
    · next same => exact ClosedAll.mono (by simp [same]) items closed
    · have inside : ClosedAll (number :: (share.toList ++ bound)) items := ClosedAll.mono around_inside items closed
      have wholeInside := Closed.mono (List.subset_append_right share.toList bound) whole wholeClosed
      exact closedAll_restore wholeInside items inside
  | .tuple items => exact closedAll_restore wholeClosed items closed
  | .map share entries =>
    rw [restore]
    split
    · next same => exact ClosedEntries.mono (by simp [same]) entries closed
    · have inside : ClosedEntries (number :: (share.toList ++ bound)) entries :=
        ClosedEntries.mono around_inside entries closed
      have wholeInside := Closed.mono (List.subset_append_right share.toList bound) whole wholeClosed
      exact closedEntries_restore wholeInside entries inside
  | .again n shape =>
    rw [restore]
    split
    · exact wholeClosed
    · next other => exact (List.mem_cons.mp closed).resolve_left other
  | .null | .bool _ | .int _ | .float _ | .text _ | .bytes _ | .date .. | .moment .. | .set .. | .foreign => trivial

theorem closedAll_restore {bound : List Nat} (wholeClosed : Closed bound whole) (items : List Value)
    (closed : ClosedAll (number :: bound) items) : ClosedAll bound (restoreAll number whole items) := by
  match items with
  | [] => trivial
  | v :: rest => exact ⟨closed_restore wholeClosed v closed.1, closedAll_restore wholeClosed rest closed.2⟩

theorem closedEntries_restore {bound : List Nat} (wholeClosed : Closed bound whole) (entries : List (Value × Value))
    (closed : ClosedEntries (number :: bound) entries) : ClosedEntries bound (restoreEntries number whole entries) := by
  match entries with
  | [] => trivial
  | (_, v) :: rest => exact ⟨closed_restore wholeClosed v closed.1, closedEntries_restore wholeClosed rest closed.2⟩

end

mutual

/-- New numbers leave it so, when what stands again inside itself has one. -/
theorem closed_renumber {bound : List Nat} {f : Nat → Share} (v : Value) (named : ∀ n ∈ v.agains, f n ≠ none)
    (closed : Closed bound v) : Closed (bound.filterMap f) (v.renumber f) := by
  match v with
  | .list share items =>
    rw [renumber, Closed, toList_bind_append]
    exact closedAll_renumber items named closed
  | .tuple items => exact closedAll_renumber items named closed
  | .map share entries =>
    rw [renumber, Closed, toList_bind_append]
    exact closedEntries_renumber entries (fun n member => named n member) closed
  | .again n shape =>
    obtain ⟨k, known⟩ := Option.ne_none_iff_exists'.mp (named n (by simp [agains]))
    rw [renumber, known]
    exact List.mem_filterMap.mpr ⟨n, closed, known⟩
  | .null | .bool _ | .int _ | .float _ | .text _ | .bytes _ | .date .. | .moment .. | .set .. | .foreign => trivial

theorem closedAll_renumber {bound : List Nat} {f : Nat → Share} (items : List Value)
    (named : ∀ n ∈ againsOfAll items, f n ≠ none) (closed : ClosedAll bound items) :
    ClosedAll (bound.filterMap f) (renumberAll f items) := by
  match items with
  | [] => trivial
  | v :: rest =>
    exact ⟨closed_renumber v (fun n member => named n (List.mem_append_left _ member)) closed.1,
      closedAll_renumber rest (fun n member => named n (List.mem_append_right _ member)) closed.2⟩

theorem closedEntries_renumber {bound : List Nat} {f : Nat → Share} (entries : List (Value × Value))
    (named : ∀ n ∈ againsOfEntries entries, f n ≠ none) (closed : ClosedEntries bound entries) :
    ClosedEntries (bound.filterMap f) (renumberEntries f entries) := by
  match entries with
  | [] => trivial
  | (k, v) :: rest =>
    exact ⟨closed_renumber v (fun n member => named n (by simp [againsOfEntries, member])) closed.1,
      closedEntries_renumber rest (fun n member => named n (by simp [againsOfEntries, member])) closed.2⟩

end

/-! ## Places in parts -/

mutual

/-- A collection that stands again has a number like any other. -/
theorem agains_subset_shares (v : Value) : v.agains ⊆ v.shares := by
  match v with
  | .list share items => exact List.subset_append_of_subset_right _ (againsOfAll_subset_sharesOfAll items)
  | .tuple items => exact againsOfAll_subset_sharesOfAll items
  | .map share entries => exact List.subset_append_of_subset_right _ (againsOfEntries_subset_sharesOfEntries entries)
  | .set share items => exact List.subset_append_of_subset_right _ (againsOfAll_subset_sharesOfAll items)
  | .again n shape => exact List.Subset.refl _
  | .null | .bool _ | .int _ | .float _ | .text _ | .bytes _ | .date .. | .moment .. | .foreign =>
    exact List.nil_subset _

theorem againsOfAll_subset_sharesOfAll (items : List Value) : againsOfAll items ⊆ sharesOfAll items := by
  match items with
  | [] => exact List.nil_subset _
  | v :: rest =>
    exact List.append_subset.mpr ⟨List.subset_append_of_subset_left _ (agains_subset_shares v),
      List.subset_append_of_subset_right _ (againsOfAll_subset_sharesOfAll rest)⟩

theorem againsOfEntries_subset_sharesOfEntries (entries : List (Value × Value)) :
    againsOfEntries entries ⊆ sharesOfEntries entries := by
  match entries with
  | [] => exact List.nil_subset _
  | (k, v) :: rest =>
    have key : k.agains ⊆ sharesOfEntries ((k, v) :: rest) := fun n member => by
      simp [sharesOfEntries, agains_subset_shares k member]
    have value : v.agains ⊆ sharesOfEntries ((k, v) :: rest) := fun n member => by
      simp [sharesOfEntries, agains_subset_shares v member]
    exact List.append_subset.mpr ⟨List.append_subset.mpr ⟨key, value⟩,
      List.subset_append_of_subset_right _ (againsOfEntries_subset_sharesOfEntries rest)⟩

end

theorem mem_againsOfAll {items : List Value} {n : Nat} : n ∈ againsOfAll items ↔ ∃ v ∈ items, n ∈ v.agains := by
  induction items with
  | nil => simp [againsOfAll]
  | cons v rest ih => simp [againsOfAll, ih]

theorem mem_againsOfEntries {entries : List (Value × Value)} {n : Nat} :
    n ∈ againsOfEntries entries ↔ ∃ e ∈ entries, n ∈ e.1.agains ∨ n ∈ e.2.agains := by
  induction entries with
  | nil => simp [againsOfEntries]
  | cons e rest ih => simp [againsOfEntries, ih, or_assoc]

theorem shares_sublist_sharesOfAll {items : List Value} {v : Value} (member : v ∈ items) :
    v.shares.Sublist (sharesOfAll items) := by
  induction items with
  | nil => cases member
  | cons u rest ih =>
    rcases List.mem_cons.mp member with rfl | later
    · exact List.sublist_append_left _ _
    · exact (ih later).trans (List.sublist_append_right _ _)

theorem shares_sublist_sharesOfEntries {entries : List (Value × Value)} {e : Value × Value} (member : e ∈ entries) :
    e.2.shares.Sublist (sharesOfEntries entries) := by
  induction entries with
  | nil => cases member
  | cons u rest ih =>
    rcases List.mem_cons.mp member with rfl | later
    · exact (List.sublist_append_right _ _).trans (List.sublist_append_left _ _)
    · exact (ih later).trans (List.sublist_append_right _ _)

theorem IsScalar.agains {v : Value} (scalar : v.IsScalar) : v.agains = [] := by
  cases v with
  | list share items => exact scalar.elim
  | tuple items => exact scalar.elim
  | map share entries => exact scalar.elim
  | set share items => exact scalar.elim
  | again number shape => exact scalar.elim
  | _ => rfl

/-! ## Environments -/

/-- The collections around a part, the innermost first, restored where they stand again in it. -/
def within : List (Nat × Value) → Value → Value
  | [], v => v
  | (number, whole) :: outer, v => restore number whole (within outer v)

variable {env : List (Nat × Value)}

theorem IsScalar.within {v : Value} (scalar : v.IsScalar) : within env v = v := by
  induction env with
  | nil => rfl
  | cons e env ih =>
    rw [Value.within, ih]
    cases v with
    | list share items => exact scalar.elim
    | tuple items => exact scalar.elim
    | map share entries => exact scalar.elim
    | set share items => exact scalar.elim
    | again number shape => exact scalar.elim
    | foreign => exact scalar.elim
    | _ => rfl

theorem within_set (share : Share) (items : List Value) : within env (.set share items) = .set share items := by
  induction env with
  | nil => rfl
  | cons e env ih =>
    rw [within, ih]
    rfl

theorem restoreAll_eq (items : List Value) : restoreAll number whole items = items.map (restore number whole) := by
  induction items with
  | nil => rfl
  | cons v rest ih => rw [restoreAll, ih, List.map_cons]

theorem restoreEntries_eq (entries : List (Value × Value)) :
    restoreEntries number whole entries = entries.map fun e => (e.1, restore number whole e.2) := by
  induction entries with
  | nil => rfl
  | cons e rest ih => rw [restoreEntries, ih, List.map_cons]

theorem renumberAll_eq {f : Nat → Share} (items : List Value) : renumberAll f items = items.map (renumber f) := by
  induction items with
  | nil => rfl
  | cons v rest ih => rw [renumberAll, ih, List.map_cons]

theorem within_tuple (items : List Value) : within env (.tuple items) = .tuple (items.map (within env)) := by
  induction env with
  | nil => simp [within]
  | cons e env ih => rw [within, ih, restore, restoreAll_eq, List.map_map]; rfl

theorem within_list {share : Share} (new : ∀ e ∈ env, share ≠ some e.1) (items : List Value) :
    within env (.list share items) = .list share (items.map (within env)) := by
  induction env with
  | nil => simp [within]
  | cons e env ih =>
    rw [within, ih fun other member => new other (List.mem_cons_of_mem _ member), restore,
      if_neg (new e List.mem_cons_self), restoreAll_eq, List.map_map]
    rfl

theorem within_map {share : Share} (new : ∀ e ∈ env, share ≠ some e.1) (entries : List (Value × Value)) :
    within env (.map share entries) = .map share (entries.map fun e => (e.1, within env e.2)) := by
  induction env with
  | nil => simp [within]
  | cons e env ih =>
    rw [within, ih fun other member => new other (List.mem_cons_of_mem _ member), restore,
      if_neg (new e List.mem_cons_self), restoreEntries_eq, List.map_map]
    rfl

theorem within_again_of_not_mem {n : Nat} (new : ∀ e ∈ env, e.1 ≠ n) (shape : Shape) :
    within env (.again n shape) = .again n shape := by
  induction env with
  | nil => rfl
  | cons e env ih =>
    rw [within, ih fun other member => new other (List.mem_cons_of_mem _ member), restore,
      if_neg (new e List.mem_cons_self).symm]

/-- In the environment of what it stands in a part is whole. -/
theorem closed_within {bound : List Nat} (whole : ∀ e ∈ env, Closed [] e.2) (v : Value)
    (closed : Closed (env.map Prod.fst ++ bound) v) : Closed bound (within env v) := by
  induction env generalizing bound with
  | nil => exact closed
  | cons e env ih =>
    refine closed_restore (Closed.mono (List.nil_subset _) _ (whole e List.mem_cons_self)) _
      (ih (fun other member => whole other (List.mem_cons_of_mem _ member)) (Closed.mono ?_ v closed))
    intro n member
    simp only [List.map_cons, List.cons_append, List.mem_cons, List.mem_append] at member ⊢
    exact or_left_comm.mp member

end Value

end Converge
