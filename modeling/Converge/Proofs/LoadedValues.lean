import Mathlib.Order.Defs.Unbundled
import Converge.Document.Load
import Converge.Proofs.Actions

/-!
# What documents hold

While the objects of a document are made, none that is made is ever replaced, and what is no collection is a
scalar (`Grows`). The members of a set have been made before the set is filled, and none of them is a
collection. So a document is no tuple, and a set in its place holds scalars alone (`load_isWhole`).
-/

namespace Converge

def Value.IsScalar : Value → Prop
  | .list .. | .tuple _ | .map .. | .set .. | .again .. | .foreign => False
  | _ => True

/-- A value as the whole of a document: no tuple, and no set but of scalars. -/
def Value.IsWhole : Value → Prop
  | .tuple _ => False
  | .set _ items => ∀ m ∈ items, m.IsScalar
  | _ => True

theorem Value.IsScalar.isWhole {v : Value} (scalar : v.IsScalar) : v.IsWhole := by
  cases v with
  | tuple items => exact scalar.elim
  | set share items => exact scalar.elim
  | _ => trivial

theorem Value.IsScalar.renumber {v : Value} (scalar : v.IsScalar) (f : Nat → Share) : (v.renumber f).IsScalar := by
  cases v with
  | list share items => exact scalar.elim
  | tuple items => exact scalar.elim
  | map share entries => exact scalar.elim
  | set share items => exact scalar.elim
  | again number shape => exact scalar.elim
  | foreign => exact scalar.elim
  | _ => trivial

theorem Value.mem_renumberAll {f : Nat → Share} {items : List Value} {m : Value}
    (member : m ∈ Value.renumberAll f items) : ∃ v ∈ items, v.renumber f = m := by
  induction items with
  | nil => cases member
  | cons v items ih =>
    rw [Value.renumberAll] at member
    rcases List.mem_cons.mp member with rfl | later
    · exact ⟨v, by simp, rfl⟩
    · obtain ⟨u, inside, same⟩ := ih later
      exact ⟨u, by simp [inside], same⟩

theorem Value.IsWhole.renumber {v : Value} (whole : v.IsWhole) (f : Nat → Share) : (v.renumber f).IsWhole := by
  cases v with
  | tuple items => exact whole.elim
  | set share items =>
    intro m member
    obtain ⟨v, inside, rfl⟩ := Value.mem_renumberAll member
    exact (whole v inside).renumber f
  | _ => trivial

/-- What a computation comes to, when it comes to something, has a property. -/
def Yields {ε α : Type} (P : α → Prop) (x : Except ε α) : Prop := ∀ a, x = .ok a → P a

namespace Yields

variable {ε δ α β : Type} {P : α → Prop} {Q : β → Prop}

theorem ok {a : α} (holds : P a) : Yields P (.ok a : Except ε α) := by
  rintro _ ⟨⟩
  exact holds

theorem error (e : ε) : Yields P (.error e : Except ε α) := fun _ same => by cases same

theorem bind {x : Except ε β} {f : β → Except ε α} (later : ∀ b, Yields P (f b)) : Yields P (x >>= f) := by
  intro a same
  obtain ⟨b, -, run⟩ := bind_eq_ok.mp same
  exact later b a run

theorem map {x : Except ε β} {f : β → α} (holds : ∀ b, P (f b)) : Yields P (x.map f) := by
  intro a same
  obtain ⟨b, -, rfl⟩ := map_ok_iff.mp same
  exact holds b

theorem mapError {x : Except ε α} {f : ε → δ} (yields : Yields P x) : Yields P (x.mapError f) :=
  fun a same => yields a (mapError_ok_iff.mp same)

end Yields

namespace Document

/-! ## Scalars -/

theorem yields_truthOf (s : String) : Yields Value.IsScalar (truthOf s) := by
  rw [truthOf]
  split
  · exact .ok trivial
  · exact .error _

theorem yields_wholeOf (s : String) : Yields Value.IsScalar (wholeOf s) := by
  rw [wholeOf]
  dsimp only
  split
  · exact .error _
  · exact .ok trivial
  · exact .bind fun _ => .ok trivial
  · exact .bind fun _ => .ok trivial
  · exact .bind fun _ => .ok trivial
  · split
    · exact .bind fun _ => .ok trivial
    · exact .bind fun _ => .ok trivial

theorem yields_fractionOf (s : String) : Yields Value.IsScalar (fractionOf s) := by
  rw [fractionOf]
  dsimp only
  split
  · exact .error _
  · split
    · exact .ok trivial
    · split
      · exact .ok trivial
      · split
        · exact .bind fun _ => .bind fun _ => .ok trivial
        · exact .bind fun _ => .ok trivial

theorem yields_bytesOf (s : String) : Yields Value.IsScalar (bytesOf s) := by
  rw [bytesOf]
  split
  · split
    · exact .ok trivial
    · exact .error _
  · exact .error _

theorem yields_timeOf (number : Nat) (s : String) : Yields Value.IsScalar (timeOf number s) := by
  rw [timeOf]
  split
  · exact .error _
  · exact .mapError (.map fun _ => trivial)
  · exact .mapError (.map fun _ => trivial)

/-- The text of a scalar stands for a scalar. -/
theorem yields_scalarValue (number : Nat) (tag : Tag) (s : String) :
    Yields Value.IsScalar (scalarValue number tag s) := by
  cases tag with
  | null => exact .ok trivial
  | truth => exact yields_truthOf s
  | whole => exact yields_wholeOf s
  | fraction => exact yields_fractionOf s
  | binary => exact yields_bytesOf s
  | time => exact yields_timeOf number s
  | text => exact .ok trivial
  | _ => exact .error _

/-! ## What making keeps -/

namespace Workshop

/-- What the node of a number has become. -/
def madeOf (w : Workshop) (number : Nat) : Option Made := (w.made[number]?).join

/-- What the collection of a number holds. -/
def heldBy (w : Workshop) (number : Nat) : Option Filling := (w.filled[number]?).join

def Scalars (w : Workshop) : Prop := ∀ number v, w.madeOf number = some (.leaf v) → v.IsScalar

/-- The node of a number will never be a collection. -/
def Settled (w : Workshop) (number : Nat) : Prop := w.made.size ≤ number ∨ ∃ v, w.madeOf number = some (.leaf v)

/-- Nothing is made or filled. -/
def Spares (w after : Workshop) : Prop := after.made = w.made ∧ after.filled = w.filled

instance : Std.Refl Spares := ⟨fun _ => ⟨rfl, rfl⟩⟩

instance : IsTrans Workshop Spares := ⟨fun _ _ _ earlier later => ⟨later.1.trans earlier.1, later.2.trans earlier.2⟩⟩

/-- What is made stays as it is, and no collection is filled. -/
structure Grows (w after : Workshop) : Prop where
  room : after.made.size = w.made.size
  made : ∀ number m, w.madeOf number = some m → after.madeOf number = some m
  filled : after.filled = w.filled
  scalars : w.Scalars → after.Scalars

instance : Std.Refl Grows := ⟨fun _ => ⟨rfl, fun _ _ made => made, rfl, id⟩⟩

instance : IsTrans Workshop Grows :=
  ⟨fun _ _ _ earlier later => ⟨later.room.trans earlier.room,
    fun number m made => later.made number m (earlier.made number m made), later.filled.trans earlier.filled,
    later.scalars ∘ earlier.scalars⟩⟩

theorem Spares.madeOf {w after : Workshop} (spares : Spares w after) (number : Nat) :
    after.madeOf number = w.madeOf number := by
  rw [Workshop.madeOf, spares.1, ← Workshop.madeOf]

theorem Spares.grows {w after : Workshop} (spares : Spares w after) : Grows w after := by
  refine ⟨by rw [spares.1], fun number m made => ?_, spares.2, fun scalars number v leaf => ?_⟩
  · rwa [spares.madeOf]
  · rw [spares.madeOf] at leaf
    exact scalars number v leaf

theorem Grows.settled {w after : Workshop} (grows : Grows w after) {number : Nat} (settled : w.Settled number) :
    after.Settled number := by
  rcases settled with outside | ⟨v, leaf⟩
  · exact .inl (grows.room ▸ outside)
  · exact .inr ⟨v, grows.made number _ leaf⟩

/-- The node of a number becomes something. -/
def put (w : Workshop) (number : Nat) (m : Made) : Workshop := { w with made := w.made.set! number (some m) }

theorem madeOf_put (w : Workshop) (number : Nat) (m : Made) (n : Nat) :
    (w.put number m).madeOf n = if n = number ∧ number < w.made.size then some m else w.madeOf n := by
  rw [madeOf, madeOf, put, Array.set!_eq_setIfInBounds, Array.getElem?_setIfInBounds]
  by_cases same : number = n
  · by_cases inside : number < w.made.size
    · simp [same, same ▸ inside]
    · subst same
      simp [inside]
  · simp [same, Ne.symm same]

theorem size_put (w : Workshop) (number : Nat) (m : Made) : (w.put number m).made.size = w.made.size := by
  simp [put]

/-- A node that has become nothing yet becomes something, and a scalar unless it is a collection. -/
theorem grows_put {w : Workshop} {number : Nat} {m : Made} (new : w.madeOf number = none)
    (scalar : ∀ v, m = .leaf v → v.IsScalar) : Grows w (w.put number m) := by
  refine ⟨w.size_put number m, fun n found made => ?_, rfl, fun scalars n v leaf => ?_⟩
  · rw [madeOf_put]
    split
    · next same =>
      rw [same.1, new] at made
      cases made
    · exact made
  · rw [madeOf_put] at leaf
    split at leaf
    · exact scalar v (Option.some.inj leaf)
    · exact scalars n v leaf

theorem settled_put (w : Workshop) (number : Nat) (v : Value) : (w.put number (.leaf v)).Settled number := by
  by_cases inside : number < w.made.size
  · exact .inr ⟨v, by simp [madeOf_put, inside]⟩
  · exact .inl (by rw [size_put]; omega)

end Workshop

namespace Make

open Workshop

variable {α β : Type}

theorem run_bind_ok {a : Make α} {f : α → Make β} {w after : Workshop} {y : β} :
    (a >>= f).run w = .ok (y, after) ↔
      ∃ x between, a.run w = .ok (x, between) ∧ (f x).run between = .ok (y, after) := by
  rw [StateT.run_bind, bind_eq_ok, Prod.exists]

/-- Whatever a making begins with, what it leaves is in a relation to that. -/
def Keeps (R : Workshop → Workshop → Prop) (a : Make α) : Prop := ∀ w x after, a.run w = .ok (x, after) → R w after

namespace Keeps

variable {R : Workshop → Workshop → Prop}

theorem mono {S : Workshop → Workshop → Prop} {a : Make α} (keeps : Keeps R a)
    (weaker : ∀ w after, R w after → S w after) : Keeps S a := fun w x after run => weaker w after (keeps w x after run)

theorem throw (fault : DocumentFault) : Keeps R (MonadExcept.throw fault : Make α) := fun _ _ _ same => by cases same

theorem bind [IsTrans Workshop R] {a : Make α} {f : α → Make β} (first : Keeps R a) (later : ∀ x, Keeps R (f x)) :
    Keeps R (a >>= f) := by
  intro w y after run
  obtain ⟨x, between, run, run'⟩ := run_bind_ok.mp run
  exact IsTrans.trans _ _ _ (first w x between run) (later x between y after run')

variable [Std.Refl R]

theorem pure (x : α) : Keeps R (Pure.pure x : Make α) := by
  rintro w _ _ ⟨⟩
  exact Std.Refl.refl w

theorem get : Keeps R (MonadState.get : Make Workshop) := by
  rintro w _ _ ⟨⟩
  exact Std.Refl.refl w

theorem lift (r : Except DocumentFault α) : Keeps R (StateT.lift r : Make α) := by
  intro w x after run
  obtain ⟨y, -, same⟩ := bind_eq_ok.mp run
  cases same
  exact Std.Refl.refl w

end Keeps

/-! ## Making -/

theorem keeps_modify {R : Workshop → Workshop → Prop} {f : Workshop → Workshop} (change : ∀ w, R w (f w)) :
    Keeps R (modify f) := by
  rintro w _ _ ⟨⟩
  exact change w

theorem keeps_node (number : Nat) : Keeps Spares (node number) := .bind .get fun _ => .pure _

theorem keeps_tagOf (number : Nat) : Keeps Spares (tagOf number) := .bind (keeps_node number) fun _ => .pure _

theorem keeps_count : Keeps Spares count := .bind .get fun _ => .pure _

theorem keeps_scalarText (fuel number : Nat) : Keeps Spares (scalarText fuel number) := by
  induction fuel generalizing number with
  | zero => exact .throw _
  | succ fuel ih =>
    refine .bind (keeps_node number) fun node => ?_
    split
    · exact .pure _
    · exact .throw _
    · refine .bind .get fun w => ?_
      dsimp only
      split
      · exact ih _
      · exact .throw _

theorem keeps_leafOf (number : Nat) : Keeps Spares (leafOf number) := by
  refine .bind (keeps_node number) fun node => .bind keeps_count fun _ => .bind (keeps_scalarText _ _) fun text => ?_
  split
  · exact .throw _
  · exact .lift _

/-- What is read from a scalar is a scalar. -/
theorem leafOf_scalar {number : Nat} {w after : Workshop} {v : Value} (run : (leafOf number).run w = .ok (v, after)) :
    v.IsScalar := by
  simp only [leafOf, run_bind_ok] at run
  obtain ⟨node, _, -, size, _, -, text, _, -, run⟩ := run
  split at run
  · cases run
  · obtain ⟨made, read, same⟩ := bind_eq_ok.mp run
    cases same
    exact yields_scalarValue _ _ _ _ read

/-- What a node becomes that has become nothing yet. -/
def fresh (number : Nat) : Make Made := do
  match ← tagOf number with
  | .sequence | .mapping | .set | .orderedMap | .pairs => do
    modify fun w => { w with waiting := w.waiting ++ [number] }
    pure Made.collection
  | .other _ | .merge | .value => throw .malformed
  | _ => do pure (Made.leaf (← leafOf number))

theorem object_eq (number : Nat) : object number = do
    match (← get).madeOf number with
    | some made => return made
    | none => do
      let made ← fresh number
      modify fun w => w.put number made
      return made := by
  rw [object]
  unfold put
  refine bind_congr fun w => ?_
  unfold madeOf
  cases (w.made[number]?).join with
  | some made => rfl
  | none =>
    rw [fresh, bind_assoc]
    refine bind_congr fun tag => ?_
    cases tag <;> simp

theorem keeps_fresh (number : Nat) : Keeps Spares (fresh number) := by
  have waits : Keeps Spares (modify fun w => { w with waiting := w.waiting ++ [number] }) :=
    keeps_modify fun _ => ⟨rfl, rfl⟩
  refine .bind (keeps_tagOf number) fun tag => ?_
  cases tag with
  | sequence | mapping | set | orderedMap | pairs => exact .bind waits fun _ => .pure _
  | other _ | merge | value => exact .throw _
  | _ => exact .bind (keeps_leafOf number) fun _ => .pure _

theorem fresh_scalar {number : Nat} {w after : Workshop} {v : Value}
    (run : (fresh number).run w = .ok (.leaf v, after)) : v.IsScalar := by
  simp only [fresh, run_bind_ok] at run
  obtain ⟨tag, _, -, run⟩ := run
  split at run
  any_goals cases run
  simp only [run_bind_ok] at run
  obtain ⟨made, _, read, run⟩ := run
  cases run
  exact leafOf_scalar read

/-- An object is made once. -/
theorem object_result {number : Nat} {w after : Workshop} {m : Made} (run : (object number).run w = .ok (m, after)) :
    Grows w after ∧ ∀ v, m = .leaf v → after.Settled number := by
  rw [object_eq, run_bind_ok] at run
  obtain ⟨_, _, ⟨⟩, run⟩ := run
  cases known : w.madeOf number with
  | some made =>
    simp only [known] at run
    cases run
    exact ⟨Std.Refl.refl w, fun v same => .inr ⟨v, same ▸ known⟩⟩
  | none =>
    simp only [known, run_bind_ok] at run
    obtain ⟨_, between, run, _, _, ⟨⟩, ⟨⟩⟩ := run
    have spares := keeps_fresh number w m between run
    have new : between.madeOf number = none := (spares.madeOf number).trans known
    have scalar : ∀ v, m = .leaf v → v.IsScalar := by
      rintro v rfl
      exact fresh_scalar run
    refine ⟨IsTrans.trans _ _ _ spares.grows (grows_put new scalar), ?_⟩
    rintro v rfl
    exact settled_put between number v

theorem keeps_object (number : Nat) : Keeps Grows (object number) := fun _ _ _ run => (object_result run).1

theorem keeps_objects (numbers : List Nat) : Keeps Grows (objects numbers) := by
  induction numbers with
  | nil => exact .pure _
  | cons number numbers ih => exact .bind (keeps_object number) fun _ => ih

/-! ## Merging -/

theorem keeps_change (number : Nat) (f : Node → Node) : Keeps Spares (change number f) :=
  keeps_modify fun _ => ⟨rfl, rfl⟩

theorem keeps_entriesOf (number : Nat) : Keeps Spares (entriesOf number) := by
  refine .bind (keeps_node number) fun node => ?_
  split
  · exact .pure _
  · exact .throw _

/-- Merging changes nodes alone. -/
theorem keeps_merging (fuel : Nat) : (∀ number, Keeps Spares (merge fuel number)) ∧
    (∀ number index front, Keeps Spares (mergeFrom fuel number index front)) ∧
    ∀ numbers, Keeps Spares (mergeAll fuel numbers) := by
  induction fuel with
  | zero => exact ⟨fun _ => .throw _, fun _ _ _ => .throw _, fun _ => .throw _⟩
  | succ fuel ih =>
    obtain ⟨one, rest, all⟩ := ih
    refine ⟨fun number => ?_, fun number index front => ?_, fun numbers => ?_⟩
    · exact .bind (keeps_entriesOf number) fun _ => .bind (rest number 0 []) fun _ => keeps_change number _
    · refine .bind (keeps_entriesOf number) fun entries => ?_
      split
      · exact .pure _
      · next key value _ =>
        refine .bind (keeps_tagOf key) fun tag => ?_
        split
        · refine .bind (keeps_change number _) fun _ => .bind (keeps_node value) fun node => ?_
          split
          · exact .bind (one value) fun _ => .bind (keeps_entriesOf value) fun _ => rest number index _
          · exact .bind (all _) fun _ => rest number index _
          · exact .throw _
        · exact .bind (keeps_change key _) fun _ => rest number (index + 1) front
        · exact rest number (index + 1) front
    · cases numbers with
      | nil => exact .pure _
      | cons number numbers =>
        exact .bind (one number) fun _ => .bind (keeps_entriesOf number) fun _ => .bind (all numbers) fun _ => .pure _

theorem keeps_merge (fuel number : Nat) : Keeps Spares (merge fuel number) := (keeps_merging fuel).1 number

theorem keeps_mergeBound : Keeps Spares mergeBound := .bind .get fun _ => .pure _

/-! ## Filling -/

theorem mem_insertEntry {w : Workshop} {key value : Nat} {entries : List (Nat × Nat)} {e : Nat × Nat}
    (member : e ∈ insertEntry w key value entries) : e.1 = key ∨ ∃ other ∈ entries, other.1 = e.1 := by
  induction entries with
  | nil =>
    rw [insertEntry, List.mem_singleton] at member
    exact .inl (congrArg Prod.fst member)
  | cons first entries ih =>
    rw [insertEntry] at member
    split at member
    · rcases List.mem_cons.mp member with rfl | later
      · exact .inr ⟨first, by simp, rfl⟩
      · exact .inr ⟨e, by simp [later], rfl⟩
    · rcases List.mem_cons.mp member with rfl | later
      · exact .inr ⟨_, List.mem_cons_self, rfl⟩
      · rcases ih later with same | ⟨other, inside, same⟩
        · exact .inl same
        · exact .inr ⟨other, by simp [inside], same⟩

/-- The keys of a mapping are made before it is filled, and none of them is a collection. -/
theorem entries_result {l soFar entries : List (Nat × Nat)} {w after : Workshop}
    (run : (Make.entries soFar l).run w = .ok (entries, after)) (settled : ∀ e ∈ soFar, w.Settled e.1) :
    Grows w after ∧ ∀ e ∈ entries, after.Settled e.1 := by
  induction l generalizing soFar w with
  | nil =>
    cases run
    exact ⟨Std.Refl.refl _, settled⟩
  | cons e l ih =>
    obtain ⟨key, value⟩ := e
    simp only [Make.entries, run_bind_ok] at run
    obtain ⟨m, between, first, run⟩ := run
    obtain ⟨grows, leaf⟩ := object_result first
    cases m with
    | collection => cases run
    | leaf v =>
      simp only [run_bind_ok] at run
      obtain ⟨_, next, second, _, _, ⟨⟩, run⟩ := run
      have more := keeps_object value between _ next second
      obtain ⟨rest, all⟩ := ih run fun e member => by
        rcases mem_insertEntry member with same | ⟨other, inside, same⟩
        · rw [same]
          exact more.settled (leaf v rfl)
        · rw [← same]
          exact more.settled (grows.settled (settled other inside))
      exact ⟨IsTrans.trans _ _ _ (IsTrans.trans _ _ _ grows more) rest, all⟩

theorem mapping_result {number : Nat} {entries : List (Nat × Nat)} {w after : Workshop}
    (run : (mapping number).run w = .ok (entries, after)) :
    Grows w after ∧ ∀ e ∈ entries, after.Settled e.1 := by
  simp only [mapping, run_bind_ok] at run
  obtain ⟨_, first, run₁, bound, second, run₂, _, third, run₃, own, fourth, run₄, run⟩ := run
  have spares : Spares w fourth := IsTrans.trans _ _ _ (keeps_entriesOf number _ _ _ run₁)
    (IsTrans.trans _ _ _ (keeps_mergeBound _ _ _ run₂)
      (IsTrans.trans _ _ _ (keeps_merge bound number _ _ _ run₃) (keeps_entriesOf number _ _ _ run₄)))
  obtain ⟨grows, all⟩ := entries_result run (by simp)
  exact ⟨IsTrans.trans _ _ _ spares.grows grows, all⟩

theorem keeps_pairs (numbers : List Nat) : Keeps Grows (pairs numbers) := by
  induction numbers with
  | nil => exact .pure _
  | cons number numbers ih =>
    refine .bind ((keeps_entriesOf number).mono fun _ _ spares => spares.grows) fun entries => ?_
    split
    · exact .bind (keeps_objects _) fun _ => .bind ih fun _ => .pure _
    · exact .throw _

theorem keeps_itemsOf (number : Nat) : Keeps Spares (itemsOf number) := by
  refine .bind (keeps_node number) fun node => ?_
  split
  · exact .pure _
  · exact .throw _

/-- The members of a set are made before it is filled, and none of them is a collection. -/
theorem filling_result {number : Nat} {held : Filling} {w after : Workshop}
    (run : (filling number).run w = .ok (held, after)) :
    Grows w after ∧ ∀ members, held = .members members → ∀ m ∈ members, after.Settled m := by
  simp only [filling, run_bind_ok] at run
  obtain ⟨tag, start, tagged, run⟩ := run
  have spares := (keeps_tagOf number w tag start tagged).grows
  cases tag with
  | sequence =>
    simp only [run_bind_ok] at run
    obtain ⟨items, _, listed, _, _, made, ⟨⟩⟩ := run
    have grows := IsTrans.trans _ _ _ (keeps_itemsOf number _ _ _ listed).grows (keeps_objects items _ _ _ made)
    exact ⟨IsTrans.trans _ _ _ spares grows, fun _ same => by cases same⟩
  | orderedMap | pairs =>
    simp only [run_bind_ok] at run
    obtain ⟨items, _, listed, _, _, made, ⟨⟩⟩ := run
    have grows := IsTrans.trans _ _ _ (keeps_itemsOf number _ _ _ listed).grows (keeps_pairs items _ _ _ made)
    exact ⟨IsTrans.trans _ _ _ spares grows, fun _ same => by cases same⟩
  | set =>
    simp only [run_bind_ok] at run
    obtain ⟨entries, _, made, ⟨⟩⟩ := run
    obtain ⟨grows, settled⟩ := mapping_result made
    refine ⟨IsTrans.trans _ _ _ spares grows, ?_⟩
    rintro _ ⟨⟩ m member
    obtain ⟨e, inside, rfl⟩ := List.mem_map.mp member
    exact settled e inside
  | _ =>
    simp only [run_bind_ok] at run
    obtain ⟨entries, _, made, ⟨⟩⟩ := run
    exact ⟨IsTrans.trans _ _ _ spares (mapping_result made).1, fun _ same => by cases same⟩

end Make

/-! ## Whole documents -/

namespace Workshop

/-- What is no collection is a scalar, and what a set holds has been made and is no collection. -/
structure Sound (w : Workshop) : Prop where
  scalars : w.Scalars
  members : ∀ number members, w.heldBy number = some (.members members) → ∀ m ∈ members, w.Settled m
  room : w.filled.size = w.made.size

theorem Sound.grows {w after : Workshop} (sound : Sound w) (grows : Grows w after) : Sound after := by
  refine ⟨grows.scalars sound.scalars, fun number members held m member => ?_, ?_⟩
  · rw [heldBy, grows.filled] at held
    exact grows.settled (sound.members number members held m member)
  · rw [grows.filled, sound.room, grows.room]

/-- A collection is filled. -/
theorem Sound.fill {w : Workshop} (sound : Sound w) {number : Nat} {held : Filling}
    (settled : ∀ members, held = .members members → ∀ m ∈ members, w.Settled m) :
    Sound { w with filled := w.filled.set! number (some held) } := by
  refine ⟨sound.scalars, fun n members found m member => ?_, ?_⟩
  · rw [heldBy, Array.set!_eq_setIfInBounds, Array.getElem?_setIfInBounds] at found
    split at found
    · split at found
      · exact settled members (Option.some.inj found) m member
      · cases found
    · exact sound.members n members found m member
  · simpa using sound.room

/-- A node that will never be a collection has a scalar for its value. -/
theorem Sound.value {sets : Value.SetOrder} {w : Workshop} (sound : Sound w) (fuel : Nat) (around : List Nat)
    {number : Nat}
    (settled : w.Settled number) : (w.value sets fuel around number).IsScalar := by
  cases fuel with
  | zero => trivial
  | succ fuel =>
    rw [Workshop.value]
    rcases settled with outside | ⟨v, leaf⟩
    · have unmade : w.made[number]? = none := Array.getElem?_eq_none outside
      have unfilled : w.filled[number]? = none := Array.getElem?_eq_none (sound.room ▸ outside)
      simp only [unmade, unfilled]
      trivial
    · rw [madeOf] at leaf
      simp only [leaf]
      exact sound.scalars number v leaf

/-- The value of a node is no tuple, and a set only of scalars. -/
theorem Sound.isWhole {sets : Value.SetOrder} {w : Workshop} (sound : Sound w) (fuel : Nat) (around : List Nat)
    (number : Nat) :
    (w.value sets fuel around number).IsWhole := by
  cases fuel with
  | zero => exact Value.IsScalar.isWhole trivial
  | succ fuel =>
    rw [Workshop.value]
    split
    · next v leaf => exact (sound.scalars number v leaf).isWhole
    · split
      · split <;> trivial
      · split <;> trivial
      · split <;> trivial
      · next members held =>
        intro m member
        obtain ⟨n, inside, rfl⟩ := List.mem_map.mp ((sets.perm _).mem_iff.mp member)
        exact sound.value fuel _ (sound.members number members held n inside)
      · trivial

end Workshop

namespace Make

open Workshop

theorem fillAll_sound {fuel : Nat} {w after : Workshop} (sound : Sound w)
    (run : (fillAll fuel).run w = .ok ((), after)) : Sound after := by
  induction fuel generalizing w with
  | zero =>
    cases run
    exact sound
  | succ fuel ih =>
    simp only [fillAll, run_bind_ok] at run
    obtain ⟨_, _, ⟨⟩, run⟩ := run
    split at run
    · cases run
      exact sound
    · next number rest _ =>
      simp only [run_bind_ok] at run
      obtain ⟨_, _, ⟨⟩, held, between, filled, _, _, ⟨⟩, run⟩ := run
      have begun : Sound { w with waiting := rest } := ⟨sound.scalars, sound.members, sound.room⟩
      obtain ⟨grows, settled⟩ := filling_result filled
      exact ih ((begun.grows grows).fill settled) run

end Make

/-- What a graph of nodes comes to is no tuple, and a set only of scalars. -/
theorem Graph.value_isWhole {sets : Value.SetOrder} {g : Graph} {v : Value} (made : g.value sets = .ok v) :
    v.IsWhole := by
  obtain ⟨⟨_, w⟩, run, same⟩ := bind_eq_ok.mp made
  obtain ⟨root, between, first, filled⟩ := Make.run_bind_ok.mp run
  cases same
  have nothing {α : Type} (number : Nat) : ((Array.replicate g.nodes.size (none : Option α))[number]?).join = none := by
    rw [Array.getElem?_replicate]
    split <;> rfl
  have start : (⟨g.nodes, .replicate g.nodes.size none, .replicate g.nodes.size none, []⟩ : Workshop).Sound :=
    ⟨fun number v leaf => by simp [Workshop.madeOf, nothing] at leaf,
      fun number members held => by simp [Workshop.heldBy, nothing] at held, by simp⟩
  exact ((Make.fillAll_sound (start.grows (Make.keeps_object _ _ _ _ first)) filled).isWhole _ _ _).renumber _

/-- A document is no tuple, and a set only of scalars. -/
theorem load_isWhole {sets : Value.SetOrder} {text : String} {v : Value} (loaded : load sets text = .ok v) :
    v.IsWhole := by
  obtain ⟨graph, -, made⟩ := bind_eq_ok.mp loaded
  split at made
  · cases made
    exact Value.IsScalar.isWhole trivial
  · exact Graph.value_isWhole made

end Document

end Converge
