import Mathlib.Data.List.Forall2
import Converge.Proofs.Enclosing

/-!
# Values that read as nodes do

The value of a document is a tree, in which a collection that holds itself stands again by its number, and whose
parts are restored as they are taken out. All the same it is as the nodes are (`reads_normalShares`): on the outside as
the node of the root, and so are its parts, and theirs in turn, however far one reads (`Reads`). Every part that can be
reached is the value of its node at a place (`Stands`), with the collections around it in the place of those that stand
again.
-/

namespace Converge

namespace Document.Workshop

open Value

/-! ## Values of nodes -/

variable {sets : SetOrder} {w : Workshop} {f : Nat → Share}

/-- The collections that stand around a place, restored as far as they stand in others. -/
def surroundings (sets : SetOrder) (w : Workshop) (f : Nat → Share) : Nat → List Nat → List (Nat × Value)
  | _, [] => []
  | fuel, n :: around =>
    let outer := w.surroundings sets f (fuel + 1) around
    match f n with
    | none => outer
    | some k => (k, within outer ((w.value sets (fuel + 1) around n).renumber f)) :: outer

/-- The value of a node at a place, with the collections around it where they stand in it. -/
def valueAt (sets : SetOrder) (w : Workshop) (f : Nat → Share) (fuel : Nat) (around : List Nat) (number : Nat) :
    Value :=
  within (w.surroundings sets f fuel around) ((w.value sets fuel around number).renumber f)

theorem surroundings_keys (fuel : Nat) (around : List Nat) :
    (w.surroundings sets f fuel around).map Prod.fst = around.filterMap f := by
  induction around generalizing fuel with
  | nil => rfl
  | cons n around ih =>
    rw [surroundings]
    cases known : f n with
    | none => simp [known, ih]
    | some k => simp [known, ih]

/-- No key in a mapping is a collection. -/
def KeysSettled (w : Workshop) : Prop :=
  ∀ n entries, w.heldBy n = some (.entries entries) → ∀ e ∈ entries, w.Settled e.1

theorem Sound.lt_of_held (sound : w.Sound) {number : Nat} {held : Filling} (found : w.heldBy number = some held) :
    number < w.made.size := by
  rw [← sound.room]
  by_contra outside
  rw [heldBy, Array.getElem?_eq_none (Nat.le_of_not_lt outside)] at found
  cases found

/-- A collection that stands again at a place in it is one of those around. -/
theorem closed_value (sound : w.Sound) (fuel : Nat) (around : List Nat) (number : Nat) :
    Closed around (w.value sets fuel around number) := by
  induction fuel generalizing around number with
  | zero => trivial
  | succ fuel ih =>
    rw [value]
    split
    · next v leaf =>
      have scalar := sound.scalars number v leaf
      cases v with
      | list | tuple | map | again => exact scalar.elim
      | _ => trivial
    · split
      · split
        · next inside => exact List.contains_iff_mem.mp inside
        · refine closedAll_iff.mpr fun v member => ?_
          obtain ⟨item, -, rfl⟩ := List.mem_map.mp member
          exact ih _ item
      · split
        · next inside => exact List.contains_iff_mem.mp inside
        · refine closedAll_iff.mpr fun v member => ?_
          obtain ⟨e, -, rfl⟩ := List.mem_map.mp member
          exact ⟨ih _ e.1, ih _ e.2, trivial⟩
      · split
        · next inside => exact List.contains_iff_mem.mp inside
        · refine closedEntries_iff.mpr fun v member => ?_
          obtain ⟨e, -, rfl⟩ := List.mem_map.mp member
          exact ih _ e.2
      · trivial
      · trivial

/-- A node becomes a collection that can hold itself. -/
structure Opens (w : Workshop) (number : Nat) : Prop where
  noLeaf : ∀ v, w.madeOf number ≠ some (.leaf v)
  held : ∃ held, w.heldBy number = some held ∧ ∀ members, held ≠ .members members

/-- What stands again inside itself keeps a number. -/
def Named (f : Nat → Share) (v : Value) : Prop := ∀ n ∈ v.agains, f n ≠ none

/-- Collections stand around a place, each once, and there is fuel for all the others. -/
def Place (sets : SetOrder) (w : Workshop) (f : Nat → Share) : Nat → List Nat → Prop
  | fuel, [] => fuel = w.made.size + 1
  | fuel, n :: around =>
    w.Place sets f (fuel + 1) around ∧ n ∉ around ∧ w.Opens n ∧ Named f (w.value sets (fuel + 1) around n)

theorem Place.around (sound : w.Sound) {fuel : Nat} {around : List Nat} (place : w.Place sets f fuel around) :
    fuel + around.length = w.made.size + 1 ∧ around.Nodup ∧ around ⊆ List.range w.made.size := by
  induction around generalizing fuel with
  | nil => exact ⟨place, List.nodup_nil, List.nil_subset _⟩
  | cons n around ih =>
    obtain ⟨outer, new, opens, -⟩ := place
    obtain ⟨total, nodup, inside⟩ := ih outer
    obtain ⟨held, found, -⟩ := opens.held
    exact ⟨by rw [List.length_cons]; omega, List.nodup_cons.mpr ⟨new, nodup⟩,
      List.cons_subset.mpr ⟨List.mem_range.mpr (sound.lt_of_held found), inside⟩⟩

/-- There is fuel at every place. -/
theorem Place.exists_fuel (sound : w.Sound) {fuel : Nat} {around : List Nat} (place : w.Place sets f fuel around) :
    ∃ less, fuel = less + 1 := by
  obtain ⟨total, nodup, inside⟩ := place.around sound
  have few := (List.subperm_of_subset nodup inside).length_le
  rw [List.length_range] at few
  exact Nat.exists_eq_succ_of_ne_zero (by omega)

/-- There is fuel inside a collection that does not stand around a place. -/
theorem Place.exists_fuel_inside (sound : w.Sound) {fuel : Nat} {around : List Nat}
    (place : w.Place sets f (fuel + 1) around)
    {number : Nat} (new : number ∉ around) (room : number < w.made.size) : ∃ less, fuel = less + 1 := by
  obtain ⟨total, nodup, inside⟩ := place.around sound
  have few := (List.subperm_of_subset (List.nodup_cons.mpr ⟨new, nodup⟩)
    (List.cons_subset.mpr ⟨List.mem_range.mpr room, inside⟩)).length_le
  rw [List.length_range, List.length_cons] at few
  exact Nat.exists_eq_succ_of_ne_zero (by omega)

/-- The value at a place is whole, if what is around it is. -/
theorem closed_valueAt (sound : w.Sound) {fuel : Nat} {around : List Nat} {number : Nat}
    (whole : ∀ e ∈ w.surroundings sets f fuel around, Closed [] e.2) (named : Named f (w.value sets fuel around number)) :
    Closed [] (w.valueAt sets f fuel around number) := by
  refine closed_within whole _ ?_
  rw [surroundings_keys, List.append_nil]
  exact closed_renumber _ named (closed_value sound _ _ _)

theorem Place.whole (sound : w.Sound) {fuel : Nat} {around : List Nat} (place : w.Place sets f fuel around) :
    ∀ e ∈ w.surroundings sets f fuel around, Closed [] e.2 := by
  induction around generalizing fuel with
  | nil => simp [surroundings]
  | cons n around ih =>
    obtain ⟨outer, -, -, named⟩ := place
    rw [surroundings]
    cases f n with
    | none => exact ih outer
    | some k =>
      intro e member
      rcases List.mem_cons.mp member with rfl | later
      · exact closed_valueAt sound (ih outer) named
      · exact ih outer e later

/-- A collection that does not stand around a place keeps its own number there. -/
theorem new_key {fuel : Nat} {around : List Nat} (apart : ∀ m n, f m = f n → f n ≠ none → m = n) {number : Nat}
    (new : number ∉ around) : ∀ e ∈ w.surroundings sets f fuel around, f number ≠ some e.1 := by
  intro e member known
  have key : e.1 ∈ around.filterMap f := surroundings_keys _ _ ▸ List.mem_map_of_mem member
  obtain ⟨other, there, same⟩ := List.mem_filterMap.mp key
  exact new (apart other number (same.trans known.symm) (by simp [known]) ▸ there)

/-- At a place where a collection stands again there is the value that it has as a whole. -/
theorem Place.again (sound : w.Sound) {fuel : Nat} {around : List Nat} (place : w.Place sets f fuel around)
    (apart : ∀ m n, f m = f n → f n ≠ none → m = n) {n k : Nat} (inside : n ∈ around) (known : f n = some k)
    (shape : Shape) : ∃ fuel' around', w.Place sets f fuel' around' ∧ n ∉ around' ∧
      Named f (w.value sets fuel' around' n) ∧
      within (w.surroundings sets f fuel around) (.again k shape) = w.valueAt sets f fuel' around' n := by
  -- The collection is the innermost one around the place, or the ones outside already put its value there, which is whole.
  induction around generalizing fuel with
  | nil => cases inside
  | cons m around ih =>
    obtain ⟨outer, new, opens, named⟩ := place
    rcases List.mem_cons.mp inside with rfl | inside
    · refine ⟨fuel + 1, around, outer, new, named, ?_⟩
      have elsewhere : ∀ e ∈ w.surroundings sets f (fuel + 1) around, e.1 ≠ k := by
        rintro e member rfl
        exact new_key apart new e member known
      simp only [surroundings, known]
      rw [within, within_again_of_not_mem elsewhere, restore, if_pos rfl]
      rfl
    · obtain ⟨fuel', around', place', absent, named', found⟩ := ih outer inside
      refine ⟨fuel', around', place', absent, named', ?_⟩
      rw [surroundings]
      cases f m with
      | none => exact found
      | some j =>
        have whole : Closed [] (w.valueAt sets f fuel' around' n) := closed_valueAt sound (place'.whole sound) named'
        dsimp only
        rw [within, found, restore_of_closed List.not_mem_nil _ whole]

/-! ## Reading -/

/-- A value is as a node on the outside, and its parts are related to those of the node. -/
def Layer (w : Workshop) (R : Nat → Value → Prop) (number : Nat) (v : Value) : Prop :=
  match w.madeOf number with
  | some (.leaf u) => ∃ f, v = u.renumber f
  | _ => match w.heldBy number with
    | some (.items items) => ∃ vs, v.items? = some vs ∧ List.Forall₂ R items vs
    | some (.pairs pairs) => ∃ vs, v.items? = some vs ∧
      List.Forall₂ (fun e u => ∃ a b, u = .tuple [a, b] ∧ R e.1 a ∧ R e.2 b) pairs vs
    | some (.entries entries) => ∃ us, v.entries? = some us ∧
      List.Forall₂ (fun e u => R e.1 u.1 ∧ R e.2 u.2) entries us
    | some (.members members) => ∃ share us vs, v = .set share us ∧ us.Perm vs ∧ List.Forall₂ R members vs
    | none => v = .null

/-- A value reads as a node does: it is as the node on the outside, and so are its parts, and theirs in turn, however
far one reads. -/
def Reads (w : Workshop) (number : Nat) (v : Value) : Prop :=
  ∃ R : Nat → Value → Prop, R number v ∧ ∀ n u, R n u → w.Layer R n u

def Stands (sets : SetOrder) (w : Workshop) (f : Nat → Share) (number : Nat) (v : Value) : Prop :=
  ∃ fuel around, w.Place sets f fuel around ∧ Named f (w.value sets fuel around number) ∧
    v = w.valueAt sets f fuel around number

theorem value_succ (fuel : Nat) (around : List Nat) (number : Nat) : w.value sets (fuel + 1) around number =
    match w.madeOf number with
    | some (.leaf v) => v
    | _ => match w.heldBy number with
      | some (.items items) => if around.contains number then .again number .list
        else .list (some number) (items.map (w.value sets fuel (number :: around)))
      | some (.pairs pairs) => if around.contains number then .again number .list
        else .list (some number)
          (pairs.map fun e => .tuple [w.value sets fuel (number :: around) e.1, w.value sets fuel (number :: around) e.2])
      | some (.entries entries) => if around.contains number then .again number .map
        else .map (some number)
          (entries.map fun e => (w.value sets fuel (number :: around) e.1, w.value sets fuel (number :: around) e.2))
      | some (.members members) =>
        .set (some number) (sets.arrange (members.map (w.value sets fuel (number :: around))))
      | none => .null := rfl

section

variable {fuel : Nat} {around : List Nat} {number : Nat} (apart : ∀ m n, f m = f n → f n ≠ none → m = n)
  (new : number ∉ around)

include apart new

theorem items?_valueAt {items : List Value} (shape : w.value sets (fuel + 1) around number = .list (some number) items) :
    (w.valueAt sets f (fuel + 1) around number).items? =
      some (items.map fun v => within (w.surroundings sets f fuel (number :: around)) (v.renumber f)) := by
  have whole : w.valueAt sets f (fuel + 1) around number =
      .list (f number) (items.map fun v => within (w.surroundings sets f (fuel + 1) around) (v.renumber f)) := by
    rw [valueAt, shape, renumber, renumberAll_eq, Option.bind_some, within_list (new_key apart new), List.map_map]
    rfl
  rw [surroundings, ← valueAt]
  cases known : f number with
  | none => rw [whole, known, items?]
  | some k =>
    rw [whole, known, items?, restoreAll_eq, List.map_map]
    rfl

theorem entries?_valueAt {entries : List (Value × Value)}
    (shape : w.value sets (fuel + 1) around number = .map (some number) entries) :
    (w.valueAt sets f (fuel + 1) around number).entries? = some (entries.map fun e =>
      (e.1.renumber f, within (w.surroundings sets f fuel (number :: around)) (e.2.renumber f))) := by
  have whole : w.valueAt sets f (fuel + 1) around number = .map (f number) (entries.map fun e =>
      (e.1.renumber f, within (w.surroundings sets f (fuel + 1) around) (e.2.renumber f))) := by
    rw [valueAt, shape, renumber, renumberEntries_eq, Option.bind_some, within_map (new_key apart new),
      List.map_map]
    rfl
  rw [surroundings, ← valueAt]
  cases known : f number with
  | none => rw [whole, known, entries?]
  | some k =>
    rw [whole, known, entries?, restoreEntries_eq, List.map_map]
    rfl

end

theorem Named.sub {v u : Value} (named : Named f v) (sub : u.agains ⊆ v.agains) : Named f u :=
  fun n member => named n (sub member)

theorem value_settled (sound : w.Sound) {number : Nat} (settled : w.Settled number) (fuel other : Nat)
    (around others : List Nat) : w.value sets (fuel + 1) around number = w.value sets (other + 1) others number := by
  rw [value_succ, value_succ]
  rcases settled with outside | ⟨v, leaf⟩
  · have unmade : w.madeOf number = none := by rw [madeOf, Array.getElem?_eq_none outside]; rfl
    have unfilled : w.heldBy number = none := by rw [heldBy, Array.getElem?_eq_none (sound.room ▸ outside)]; rfl
    rw [unmade, unfilled]
  · rw [leaf]

/-- What is no collection stands where nothing is around. -/
theorem stands_settled (sound : w.Sound) {number : Nat} (settled : w.Settled number) (fuel : Nat) (around : List Nat) :
    w.Stands sets f number ((w.value sets (fuel + 1) around number).renumber f) := by
  have scalar : (w.value sets (fuel + 1) around number).IsScalar := sound.value _ _ settled
  refine ⟨w.made.size + 1, [], rfl, ?_, ?_⟩
  · rw [value_settled sound settled _ fuel _ around]
    intro n member
    rw [scalar.agains] at member
    cases member
  · rw [valueAt, value_settled sound settled w.made.size fuel [] around]
    rfl

/-- A collection that stands around a place is one that can hold itself. -/
theorem Place.opens {fuel : Nat} {around : List Nat} (place : w.Place sets f fuel around) {n : Nat}
    (inside : n ∈ around) :
    w.Opens n := by
  induction around generalizing fuel with
  | nil => cases inside
  | cons m around ih =>
    obtain ⟨outer, -, opens, -⟩ := place
    rcases List.mem_cons.mp inside with rfl | inside
    · exact opens
    · exact ih outer inside

/-- At a place inside a collection it stands again. -/
theorem Opens.value {n : Nat} (opens : w.Opens n) {fuel : Nat} {around : List Nat} (inside : n ∈ around) :
    ∃ shape, w.value sets (fuel + 1) around n = .again n shape := by
  obtain ⟨noLeaf, held, found, noMembers⟩ := opens
  have again : around.contains n = true := List.contains_iff_mem.mpr inside
  rw [value_succ]
  split
  · next v leaf => exact absurd leaf (noLeaf v)
  · rw [found]
    cases held with
    | items | pairs => exact ⟨.list, if_pos again⟩
    | entries => exact ⟨.map, if_pos again⟩
    | members members => exact absurd rfl (noMembers members)

/-! ## Layers of collections -/

/-- A part stands inside its collection, if what stands again in the part does so in the collection. -/
theorem Place.stands_part {fuel : Nat} {around : List Nat} {number part : Nat}
    (place : w.Place sets f (fuel + 1) around) (new : number ∉ around) (opens : w.Opens number)
    (named : Named f (w.value sets (fuel + 1) around number))
    (sub : (w.value sets fuel (number :: around) part).agains ⊆ (w.value sets (fuel + 1) around number).agains) :
    w.Stands sets f part (w.valueAt sets f fuel (number :: around) part) :=
  ⟨fuel, number :: around, ⟨place, new, opens, named⟩, named.sub sub, rfl⟩

section

variable (sound : w.Sound) (keys : w.KeysSettled) (apart : ∀ m n, f m = f n → f n ≠ none → m = n)
  {fuel : Nat} {around : List Nat} {number : Nat}

section

variable (place : w.Place sets f (fuel + 1) around) (new : number ∉ around) (opens : w.Opens number)
  (named : Named f (w.value sets (fuel + 1) around number))

include apart place new opens named

theorem layer_items {items : List Nat} (shape : w.value sets (fuel + 1) around number =
      .list (some number) (items.map (w.value sets fuel (number :: around)))) :
    ∃ vs, (w.valueAt sets f (fuel + 1) around number).items? = some vs ∧ List.Forall₂ (w.Stands sets f) items vs := by
  refine ⟨_, items?_valueAt apart new shape, ?_⟩
  rw [List.map_map, List.forall₂_map_right_iff, List.forall₂_same]
  intro item member
  refine place.stands_part new opens named fun n again => ?_
  rw [shape]
  exact mem_againsOfAll.mpr ⟨_, List.mem_map_of_mem member, again⟩

theorem layer_pairs {pairs : List (Nat × Nat)} (shape : w.value sets (fuel + 1) around number =
      .list (some number) (pairs.map fun e =>
        .tuple [w.value sets fuel (number :: around) e.1, w.value sets fuel (number :: around) e.2])) :
    ∃ vs, (w.valueAt sets f (fuel + 1) around number).items? = some vs ∧
      List.Forall₂ (fun e u => ∃ a b, u = .tuple [a, b] ∧ w.Stands sets f e.1 a ∧ w.Stands sets f e.2 b) pairs vs := by
  refine ⟨_, items?_valueAt apart new shape, ?_⟩
  rw [List.map_map, List.forall₂_map_right_iff, List.forall₂_same]
  intro e member
  have part (c : Nat) (inside : c = e.1 ∨ c = e.2) :
      w.Stands sets f c (w.valueAt sets f fuel (number :: around) c) := by
    refine place.stands_part new opens named fun n again => ?_
    rw [shape]
    refine mem_againsOfAll.mpr ⟨_, List.mem_map_of_mem member, mem_againsOfAll.mpr ?_⟩
    rcases inside with rfl | rfl
    · exact ⟨_, by simp, again⟩
    · exact ⟨_, List.mem_cons_of_mem _ List.mem_cons_self, again⟩
  exact ⟨_, _, within_tuple _, part e.1 (.inl rfl), part e.2 (.inr rfl)⟩

include sound keys in
theorem layer_entries {entries : List (Nat × Nat)} (found : w.heldBy number = some (.entries entries))
    (shape : w.value sets (fuel + 1) around number = .map (some number) (entries.map fun e =>
      (w.value sets fuel (number :: around) e.1, w.value sets fuel (number :: around) e.2))) :
    ∃ us, (w.valueAt sets f (fuel + 1) around number).entries? = some us ∧
      List.Forall₂ (fun e u => w.Stands sets f e.1 u.1 ∧ w.Stands sets f e.2 u.2) entries us := by
  refine ⟨_, entries?_valueAt apart new shape, ?_⟩
  rw [List.map_map, List.forall₂_map_right_iff, List.forall₂_same]
  intro e member
  have part (c : Nat) (inside : c = e.1 ∨ c = e.2) :
      w.Stands sets f c (w.valueAt sets f fuel (number :: around) c) := by
    refine place.stands_part new opens named fun n again => ?_
    rw [shape]
    refine mem_againsOfEntries.mpr ⟨_, List.mem_map_of_mem member, ?_⟩
    rcases inside with rfl | rfl
    · exact .inl again
    · exact .inr again
  have place' : w.Place sets f fuel (number :: around) := ⟨place, new, opens, named⟩
  obtain ⟨fuel, rfl⟩ := place'.exists_fuel sound
  have scalar : ((w.value sets (fuel + 1) (number :: around) e.1).renumber f).IsScalar :=
    (sound.value _ _ (keys number entries found e member)).renumber f
  have key := part e.1 (.inl rfl)
  rw [valueAt, scalar.within] at key
  exact ⟨key, part e.2 (.inr rfl)⟩

end

include sound in
/-- The members of a set are made before it, so each is its own value wherever it stands. -/
theorem layer_members (place : w.Place sets f (fuel + 1) around) (new : number ∉ around) {members : List Nat}
    (found : w.heldBy number = some (.members members)) (shape : w.value sets (fuel + 1) around number =
      .set (some number) (sets.arrange (members.map (w.value sets fuel (number :: around))))) :
    ∃ share us vs, w.valueAt sets f (fuel + 1) around number = .set share us ∧ us.Perm vs ∧
      List.Forall₂ (w.Stands sets f) members vs := by
  obtain ⟨less, rfl⟩ := place.exists_fuel_inside sound new (sound.lt_of_held found)
  refine ⟨f number, (sets.arrange (members.map (w.value sets (less + 1) (number :: around)))).map (renumber f),
    members.map fun m => (w.value sets (less + 1) (number :: around) m).renumber f, ?_, ?_, ?_⟩
  · rw [valueAt, shape, renumber, within_set, renumberAll_eq]
    rfl
  · have listed := (sets.perm (members.map (w.value sets (less + 1) (number :: around)))).map (renumber f)
    rwa [List.map_map] at listed
  · rw [List.forall₂_map_right_iff, List.forall₂_same]
    exact fun m member => stands_settled sound (sound.members number members found m member) less _

include sound keys apart

/-- Where a collection does not stand inside itself its layer is that of its node. -/
theorem layer_of_new (place : w.Place sets f fuel around) (new : number ∉ around)
    (named : Named f (w.value sets fuel around number)) :
    w.Layer (w.Stands sets f) number (w.valueAt sets f fuel around number) := by
  obtain ⟨fuel, rfl⟩ := place.exists_fuel sound
  have outside : around.contains number = false := by simpa using new
  have shape := @value_succ sets w fuel around number
  rw [Layer]
  split
  · next u leaf =>
    rw [leaf] at shape
    exact ⟨f, by rw [valueAt, shape, ((sound.scalars number u leaf).renumber f).within]⟩
  · next noLeaf =>
    split at shape
    · next u leaf => exact absurd leaf (noLeaf u)
    · simp only [outside, Bool.false_eq_true, if_false] at shape
      cases found : w.heldBy number with
      | none =>
        rw [found] at shape
        dsimp only at shape ⊢
        rw [valueAt, shape]
        exact IsScalar.within trivial
      | some held =>
        rw [found] at shape
        cases held with
        | items items => exact layer_items apart place new ⟨noLeaf, _, found, by simp⟩ named shape
        | pairs pairs => exact layer_pairs apart place new ⟨noLeaf, _, found, by simp⟩ named shape
        | entries entries => exact layer_entries sound keys apart place new ⟨noLeaf, _, found, by simp⟩ named found shape
        | members members => exact layer_members sound place new found shape

/-- What stands at a place has the layer of its node, and its parts stand at places. -/
theorem Stands.layer {number : Nat} {v : Value} (stands : w.Stands sets f number v) :
    w.Layer (w.Stands sets f) number v := by
  obtain ⟨fuel, around, place, named, rfl⟩ := stands
  by_cases inside : number ∈ around
  · obtain ⟨less, rfl⟩ := place.exists_fuel sound
    obtain ⟨shape, again⟩ := (place.opens inside).value inside
    have inValue : number ∈ (w.value sets (less + 1) around number).agains := again ▸ List.mem_singleton_self number
    obtain ⟨k, known⟩ := Option.ne_none_iff_exists'.mp (named number inValue)
    obtain ⟨fuel', around', place', new, named', found⟩ := place.again sound apart inside known shape
    have same : w.valueAt sets f (less + 1) around number = w.valueAt sets f fuel' around' number := by
      rw [valueAt, again, renumber, known]
      exact found
    rw [same]
    exact layer_of_new sound keys apart place' new named'
  · exact layer_of_new sound keys apart place inside named

end

/-! ## Whole values -/

theorem Layer.mono {R S : Nat → Value → Prop} (weaker : ∀ n v, R n v → S n v) {number : Nat} {v : Value}
    (layer : w.Layer R number v) : w.Layer S number v := by
  rw [Layer] at layer ⊢
  split at layer
  · exact layer
  · split at layer
    · obtain ⟨vs, same, parts⟩ := layer
      exact ⟨vs, same, parts.imp fun _ _ => weaker _ _⟩
    · obtain ⟨vs, same, parts⟩ := layer
      exact ⟨vs, same, parts.imp fun _ _ ⟨a, b, pair, first, second⟩ =>
        ⟨a, b, pair, weaker _ _ first, weaker _ _ second⟩⟩
    · obtain ⟨us, same, parts⟩ := layer
      exact ⟨us, same, parts.imp fun _ _ both => ⟨weaker _ _ both.1, weaker _ _ both.2⟩⟩
    · obtain ⟨share, us, vs, same, listed, parts⟩ := layer
      exact ⟨share, us, vs, same, listed, parts.imp fun _ _ => weaker _ _⟩
    · exact layer

/-- What reads as a node does is as the node on the outside, and its parts read as those of the node. -/
theorem Reads.layer {number : Nat} {v : Value} (reads : w.Reads number v) : w.Layer w.Reads number v := by
  obtain ⟨R, related, step⟩ := reads
  exact (step number v related).mono fun n u related => ⟨R, related, step⟩

/-- What is known of a number in a part is known of it in the whole, which has its own number besides. -/
theorem often_of_part {inner outer around : List Nat} {number n : Nat} (sub : inner.Sublist outer) (inside : n ∈ inner)
    (found : n ∈ number :: around ∨ 2 ≤ inner.count n) : n ∈ around ∨ 2 ≤ (number :: outer).count n := by
  rcases found with found | often
  · rcases List.mem_cons.mp found with rfl | around
    · have once := List.count_pos_iff.mpr (sub.subset inside)
      rw [List.count_cons_self]
      omega
    · exact .inl around
  · exact .inr (Nat.le_trans often ((sub.trans (List.sublist_cons_self _ _)).count_le n))

/-- A collection that stands again, and not in one of those around, has its number twice at least. -/
theorem again_value (sound : w.Sound) (keys : w.KeysSettled) (fuel : Nat) (around : List Nat) (number : Nat) {n : Nat}
    (again : n ∈ (w.value sets fuel around number).agains) :
    n ∈ around ∨ 2 ≤ (w.value sets fuel around number).shares.count n := by
  induction fuel generalizing around number with
  | zero => cases again
  | succ fuel ih =>
    rw [value_succ] at again ⊢
    split at again
    · next v leaf =>
      rw [(sound.scalars number v leaf).agains] at again
      cases again
    · split at again
      · split at again
        · next inside =>
          rw [List.mem_singleton.mp again]
          exact .inl (List.contains_iff_mem.mp inside)
        · next outside =>
          rw [if_neg outside]
          obtain ⟨v, member, inside⟩ := mem_againsOfAll.mp again
          obtain ⟨item, -, rfl⟩ := List.mem_map.mp member
          exact often_of_part (shares_sublist_sharesOfAll member) (agains_subset_shares _ inside) (ih _ item inside)
      · split at again
        · next inside =>
          rw [List.mem_singleton.mp again]
          exact .inl (List.contains_iff_mem.mp inside)
        · next outside =>
          rw [if_neg outside]
          obtain ⟨v, member, inside⟩ := mem_againsOfAll.mp again
          obtain ⟨e, -, rfl⟩ := List.mem_map.mp member
          obtain ⟨u, side, inside⟩ := mem_againsOfAll.mp inside
          have sub := (shares_sublist_sharesOfAll side).trans (shares_sublist_sharesOfAll member)
          have found : n ∈ number :: around ∨ 2 ≤ u.shares.count n := by
            simp only [List.mem_cons, List.not_mem_nil, or_false] at side
            rcases side with rfl | rfl
            · exact ih _ e.1 inside
            · exact ih _ e.2 inside
          exact often_of_part sub (agains_subset_shares _ inside) found
      · next entries held =>
        split at again
        · next inside =>
          rw [List.mem_singleton.mp again]
          exact .inl (List.contains_iff_mem.mp inside)
        · next outside =>
          rw [if_neg outside]
          obtain ⟨u, member, inside⟩ := mem_againsOfEntries.mp again
          obtain ⟨e, listed, rfl⟩ := List.mem_map.mp member
          rcases inside with key | inside
          · rw [(sound.value fuel _ (keys number entries held e listed)).agains] at key
            cases key
          · exact often_of_part (shares_sublist_sharesOfEntries member) (agains_subset_shares _ inside) (ih _ e.2 inside)
      · next members held =>
        obtain ⟨u, member, inside⟩ := mem_againsOfAll.mp again
        obtain ⟨m, listed, rfl⟩ := List.mem_map.mp ((sets.perm _).mem_iff.mp member)
        rw [(sound.value fuel _ (sound.members number members held m listed)).agains] at inside
        cases inside
      · cases again

/-- The value of a document reads as its root does. -/
theorem reads_normalShares (sets : Value.SetOrder) (sound : w.Sound) (keys : w.KeysSettled) (root : Nat) :
    w.Reads root (w.value sets (w.made.size + 1) [] root).normalShares := by
  refine ⟨w.Stands sets fun n => (repeated (w.value sets (w.made.size + 1) [] root).shares).idxOf? n, ?_,
    fun n u => Stands.layer sound keys fun m n => idxOf?_inj⟩
  refine ⟨w.made.size + 1, [], rfl, fun n again => ?_, rfl⟩
  have often := (again_value sound keys _ [] root again).resolve_left List.not_mem_nil
  rw [Ne, List.idxOf?_eq_none_iff, not_not, mem_repeated]
  exact often

end Document.Workshop

end Converge
