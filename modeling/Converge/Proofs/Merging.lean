import Mathlib.Tactic.ByContra
import Converge.Proofs.LoadedValues

/-!
# Nodes while objects are made

Merging changes nodes: the key `=` becomes text, and a mapping loses merge keys and takes in entries before its own.
No more is ever done to them (`Graph.Stays`), so the entries that a mapping was written with stay at its end. Each step
of the making of objects keeps that, and puts each collection that comes to be at the end of those that wait
(`Workshop.Works`).
-/

namespace Converge.Document

/-! ## Nodes -/

def Graph.node (g : Graph) (number : Nat) : Node := g.nodes[number]?.getD default

/-- The key of an entry is no merge key. -/
def Graph.isOwn (g : Graph) (e : Nat × Nat) : Bool := (g.node e.1).tag ≠ .merge

/-- The entries that a mapping is written with, in order and with all that repeat a key; merge keys are not among
them. -/
def Graph.written (g : Graph) (number : Nat) : List (Nat × Nat) :=
  match (g.node number).content with
  | .mapping entries => entries.filter g.isOwn
  | _ => []

def Workshop.nodeOf (w : Workshop) (number : Nat) : Node := w.nodes[number]?.getD default

/-- A node is as it was written, but for what merging does: the key `=` becomes text, and a mapping loses merge keys
and takes in entries before its own. -/
structure Graph.Stays (g : Graph) (number : Nat) (node : Node) : Prop where
  tag : node.tag = (g.node number).tag ∨ (g.node number).tag = .value ∧ node.tag = .text
  plain : (∀ entries, (g.node number).content ≠ .mapping entries) → node.content = (g.node number).content
  mapping : ∀ entries, (g.node number).content = .mapping entries →
    ∃ now, node.content = .mapping now ∧ entries.filter g.isOwn <:+ now.filter g.isOwn

namespace Graph.Stays

variable {g : Graph} {number : Nat} {node : Node}

theorem start (g : Graph) (number : Nat) : g.Stays number (g.node number) where
  tag := .inl rfl
  plain _ := rfl
  mapping entries same := ⟨entries, same, List.suffix_refl _⟩

theorem tag_iff (stays : g.Stays number node) (tag : Tag) (noValue : tag ≠ .value) (noText : tag ≠ .text) :
    node.tag = tag ↔ (g.node number).tag = tag := by
  rcases stays.tag with same | ⟨before, after⟩
  · rw [same]
  · rw [before, after]
    exact ⟨fun same => absurd same.symm noText, fun same => absurd same.symm noValue⟩

theorem merge_iff (stays : g.Stays number node) : node.tag = .merge ↔ (g.node number).tag = .merge :=
  stays.tag_iff .merge (by simp) (by simp)

theorem mapping_iff (stays : g.Stays number node) : node.tag = .mapping ↔ (g.node number).tag = .mapping :=
  stays.tag_iff .mapping (by simp) (by simp)

/-- A key `=` becomes text. -/
theorem text (stays : g.Stays number node) (value : node.tag = .value) : g.Stays number { node with tag := .text } where
  tag := by
    rcases stays.tag with same | ⟨-, after⟩
    · exact .inr ⟨same.symm.trans value, rfl⟩
    · rw [after] at value
      cases value
  plain := stays.plain
  mapping := stays.mapping

/-- A mapping may have other entries, as long as they end in those it was written with. -/
theorem change (stays : g.Stays number node) {entries now : List (Nat × Nat)}
    (content : node.content = .mapping entries) (longer : entries.filter g.isOwn <:+ now.filter g.isOwn) :
    g.Stays number ⟨node.tag, .mapping now⟩ where
  tag := stays.tag
  plain none := absurd (content.symm.trans (stays.plain none)).symm (none entries)
  mapping written same := by
    obtain ⟨entries', content', suffix⟩ := stays.mapping written same
    cases content.symm.trans content'
    exact ⟨now, rfl, suffix.trans longer⟩

end Graph.Stays

/-- What merging does to nodes is all that was done to them; what is made is no merge key, and a mapping only when it
is a collection. -/
structure Graph.Tended (g : Graph) (w : Workshop) : Prop where
  size : w.nodes.size = g.nodes.size
  room : w.made.size = g.nodes.size
  nodes : ∀ number, g.Stays number (w.nodeOf number)
  made : ∀ number m, w.madeOf number = some m →
    (g.node number).tag ≠ .merge ∧ ((g.node number).tag = .mapping → m = .collection)

namespace Workshop

theorem nodeOf_modify (w : Workshop) (number : Nat) (f : Node → Node) (n : Nat) :
    ({ w with nodes := w.nodes.modify number f }).nodeOf n =
      if n = number ∧ number < w.nodes.size then f (w.nodeOf n) else w.nodeOf n := by
  rw [nodeOf, nodeOf, Array.getElem?_modify]
  by_cases same : number = n
  · subst same
    by_cases inside : number < w.nodes.size
    · simp [inside]
    · simp [inside]
  · simp [same, Ne.symm same]

/-- The node of a number has become something, if there is one. -/
def Begun (w : Workshop) (number : Nat) : Prop := w.made.size ≤ number ∨ ∃ m, w.madeOf number = some m

theorem Grows.begun {w after : Workshop} (grows : Grows w after) {number : Nat} (begun : w.Begun number) :
    after.Begun number := by
  rcases begun with outside | ⟨m, made⟩
  · exact .inl (grows.room ▸ outside)
  · exact .inr ⟨m, grows.made number m made⟩

theorem begun_put (w : Workshop) (number : Nat) (m : Made) : (w.put number m).Begun number := by
  by_cases inside : number < w.made.size
  · exact .inr ⟨m, by simp [madeOf_put, inside]⟩
  · exact .inl (by rw [size_put]; omega)

/-- How many nodes have become nothing yet. -/
def unmade (w : Workshop) : Nat := (List.range w.made.size).countP fun n => (w.madeOf n).isNone

/-- Objects are made: each collection that comes to be waits at the end, and nodes change as merging changes them. -/
structure Works (g : Graph) (w after : Workshop) : Prop where
  grows : Grows w after
  tended : g.Tended w → g.Tended after
  waiting : g.Tended w → ∃ more, after.waiting = w.waiting ++ more ∧ more.length + after.unmade ≤ w.unmade ∧
    ∀ n, after.madeOf n = some .collection → w.madeOf n = some .collection ∨ n ∈ more

variable {g : Graph}

instance : Std.Refl (Works g) := ⟨fun _ => ⟨Std.Refl.refl _, id, fun _ => ⟨[], by simp, by simp, fun _ => .inl⟩⟩⟩

instance : IsTrans Workshop (Works g) := by
  refine ⟨fun u v w earlier later => ⟨IsTrans.trans _ _ _ earlier.grows later.grows, later.tended ∘ earlier.tended,
    fun tended => ?_⟩⟩
  obtain ⟨first, same, few, kept⟩ := earlier.waiting tended
  obtain ⟨second, same', few', kept'⟩ := later.waiting (earlier.tended tended)
  refine ⟨first ++ second, by rw [same', same, List.append_assoc], by rw [List.length_append]; omega, fun n made => ?_⟩
  rcases kept' n made with made | new
  · exact (kept n made).imp_right (List.mem_append_left _)
  · exact .inr (List.mem_append_right _ new)

/-- A node is changed. -/
theorem works_modify {w : Workshop} {number : Nat} {f : Node → Node}
    (stays : g.Tended w → g.Stays number (f (w.nodeOf number))) :
    Works g w { w with nodes := w.nodes.modify number f } where
  grows := Spares.grows ⟨rfl, rfl⟩
  tended tended := by
    refine ⟨by simpa using tended.size, tended.room, fun n => ?_, tended.made⟩
    rw [nodeOf_modify]
    split
    · next same =>
      rw [same.1]
      exact stays tended
    · exact tended.nodes n
  waiting _ := ⟨[], by simp, by simp [unmade, madeOf], fun _ => .inl⟩

/-- One node fewer has become nothing when a node becomes something. -/
theorem unmade_put {w : Workshop} {number : Nat} {m : Made} (new : w.madeOf number = none)
    (inside : number < w.made.size) : (w.put number m).unmade + 1 = w.unmade := by
  have others (l : List Nat) (absent : number ∉ l) :
      l.countP (fun n => ((w.put number m).madeOf n).isNone) = l.countP fun n => (w.madeOf n).isNone := by
    refine List.countP_congr fun n member => ?_
    rw [madeOf_put, if_neg (by rintro ⟨rfl, -⟩; exact absent member)]
  obtain ⟨before, after, split⟩ := List.append_of_mem (List.mem_range.mpr inside)
  have nodup := List.nodup_range (n := w.made.size)
  rw [split, List.nodup_append, List.nodup_cons] at nodup
  have absent : number ∉ before := fun member => nodup.2.2 _ member _ List.mem_cons_self rfl
  have one : (w.put number m).madeOf number = some m := by rw [madeOf_put, if_pos ⟨rfl, inside⟩]
  rw [unmade, unmade, size_put, split, List.countP_append, List.countP_append, List.countP_cons, List.countP_cons,
    others before absent, others after nodup.2.1.1, one, new]
  simp
  omega

theorem unmade_put_le (w : Workshop) (number : Nat) (m : Made) : (w.put number m).unmade ≤ w.unmade := by
  rw [unmade, unmade, size_put]
  refine List.countP_mono_left fun n _ none => ?_
  rw [madeOf_put] at none
  split at none
  · cases none
  · exact none

/-- What a node may become. -/
structure Becomes (w : Workshop) (number : Nat) (m : Made) : Prop where
  new : w.madeOf number = none
  noMerge : (w.nodeOf number).tag ≠ .merge
  mapping : (w.nodeOf number).tag = .mapping → m = .collection

theorem Becomes.tended {w : Workshop} {number : Nat} {m : Made} (becomes : w.Becomes number m) (tended : g.Tended w) :
    g.Tended (w.put number m) where
  size := tended.size
  room := (w.size_put number m).trans tended.room
  nodes := tended.nodes
  made n other found := by
    rw [madeOf_put] at found
    split at found
    · next same =>
      cases found
      rw [same.1]
      refine ⟨fun merge => becomes.noMerge ?_, fun mapping => becomes.mapping ?_⟩
      · exact (tended.nodes number).merge_iff.mpr merge
      · exact (tended.nodes number).mapping_iff.mpr mapping
    · exact tended.made n other found

theorem works_leaf {w : Workshop} {number : Nat} {v : Value} (becomes : w.Becomes number (.leaf v))
    (scalar : v.IsScalar) : Works g w (w.put number (.leaf v)) where
  grows := grows_put becomes.new fun u same => Made.leaf.inj same ▸ scalar
  tended := becomes.tended
  waiting _ := by
    refine ⟨[], (List.append_nil _).symm, by simpa using w.unmade_put_le number _, fun n made => ?_⟩
    rw [madeOf_put] at made
    split at made
    · cases made
    · exact .inl made

theorem works_collection {w : Workshop} {number : Nat} (becomes : w.Becomes number .collection)
    (inside : number < w.nodes.size) :
    Works g w ({ w with waiting := w.waiting ++ [number] }.put number .collection) where
  grows := by
    have waits : Spares w { w with waiting := w.waiting ++ [number] } := ⟨rfl, rfl⟩
    exact IsTrans.trans _ _ _ waits.grows (grows_put becomes.new (by simp))
  tended tended := ⟨tended.size, (becomes.tended tended).room, tended.nodes, (becomes.tended tended).made⟩
  waiting tended := by
    refine ⟨[number], rfl, ?_, fun n made => ?_⟩
    · have one : (w.put number .collection).unmade + 1 = w.unmade := 
        unmade_put becomes.new (by rwa [tended.room, ← tended.size])
      rw [List.length_singleton, Nat.add_comm]
      exact Nat.le_of_eq one
    · have cases : (w.put number .collection).madeOf n = some .collection := made
      rw [madeOf_put] at cases
      split at cases
      · next same => exact .inr (by simp [same.1])
      · exact .inl cases

end Workshop

namespace Make

open Workshop

variable {g : Graph}

/-! ## What reading leaves as it is -/

theorem node_ok {number : Nat} {w after : Workshop} {node : Node} (run : (Make.node number).run w = .ok (node, after)) :
    node = w.nodeOf number ∧ w = after := by
  cases run
  exact ⟨rfl, rfl⟩

theorem tagOf_ok {number : Nat} {w after : Workshop} {tag : Tag} (run : (tagOf number).run w = .ok (tag, after)) :
    tag = (w.nodeOf number).tag ∧ w = after := by
  cases run
  exact ⟨rfl, rfl⟩

theorem entriesOf_ok {number : Nat} {w after : Workshop} {entries : List (Nat × Nat)}
    (run : (entriesOf number).run w = .ok (entries, after)) :
    (w.nodeOf number).content = .mapping entries ∧ w = after := by
  simp only [entriesOf, run_bind_ok] at run
  obtain ⟨_, _, read, run⟩ := run
  obtain ⟨rfl, rfl⟩ := node_ok read
  split at run
  · next content =>
    cases run
    exact ⟨content, rfl⟩
  · cases run

theorem itemsOf_ok {number : Nat} {w after : Workshop} {items : List Nat}
    (run : (itemsOf number).run w = .ok (items, after)) : w = after := by
  simp only [itemsOf, run_bind_ok] at run
  obtain ⟨_, _, read, run⟩ := run
  obtain ⟨rfl, rfl⟩ := node_ok read
  split at run
  · cases run
    rfl
  · cases run

theorem scalarText_ok {fuel number : Nat} {w after : Workshop} {text : String}
    (run : (scalarText fuel number).run w = .ok (text, after)) : w = after := by
  induction fuel generalizing number with
  | zero => cases run
  | succ fuel ih =>
    simp only [scalarText, run_bind_ok] at run
    obtain ⟨_, _, read, run⟩ := run
    obtain ⟨rfl, rfl⟩ := node_ok read
    split at run
    · cases run
      rfl
    · cases run
    · simp only [run_bind_ok] at run
      obtain ⟨_, _, ⟨⟩, run⟩ := run
      split at run
      · exact ih run
      · cases run

theorem leafOf_ok {number : Nat} {w after : Workshop} {v : Value} (run : (leafOf number).run w = .ok (v, after)) :
    w = after := by
  simp only [leafOf, run_bind_ok] at run
  obtain ⟨_, _, read, _, _, ⟨⟩, _, _, text, run⟩ := run
  obtain ⟨rfl, rfl⟩ := node_ok read
  obtain rfl := scalarText_ok text
  split at run
  · cases run
  · obtain ⟨_, -, same⟩ := bind_eq_ok.mp run
    cases same
    rfl

/-! ## Objects -/

/-- A node becomes what it is already, or a collection that waits, or a scalar. -/
theorem works_object {number : Nat} {w after : Workshop} {m : Made} (run : (object number).run w = .ok (m, after)) :
    Works g w after ∧ (g.Tended w → (g.node number).tag ≠ .merge) ∧ after.Begun number := by
  rw [object_eq, run_bind_ok] at run
  obtain ⟨_, _, ⟨⟩, run⟩ := run
  cases known : w.madeOf number with
  | some made =>
    simp only [known] at run
    cases run
    exact ⟨Std.Refl.refl w, fun tended => (tended.made number m known).1, .inr ⟨m, known⟩⟩
  | none =>
    simp only [known, run_bind_ok] at run
    obtain ⟨_, between, made, _, _, ⟨⟩, ⟨⟩⟩ := run
    -- What it becomes depends on its tag alone, and that of a merge key lets it become nothing.
    have scalar : ∀ v, m = .leaf v → v.IsScalar := by
      rintro v rfl
      exact fresh_scalar made
    rw [fresh, run_bind_ok] at made
    obtain ⟨tag, _, read, made⟩ := made
    obtain ⟨same, rfl⟩ := tagOf_ok read
    have noMerge : (w.nodeOf number).tag ≠ .merge := by
      rw [← same]
      rintro rfl
      cases made
    refine ⟨?_, fun tended merge => noMerge ((tended.nodes number).merge_iff.mpr merge),
      begun_put between number m⟩
    have leaf (read : (do pure (Made.leaf (← leafOf number))).run w = .ok (m, between))
        (noMapping : (w.nodeOf number).tag ≠ .mapping) : Works g w (between.put number m) := by
      obtain ⟨v, _, read, ⟨⟩⟩ := run_bind_ok.mp read
      obtain rfl := leafOf_ok read
      exact works_leaf ⟨known, noMerge, fun mapping => absurd mapping noMapping⟩ (scalar v rfl)
    have collection (waits : (do
          modify fun w => { w with waiting := w.waiting ++ [number] }
          pure Made.collection : Make Made).run w = .ok (m, between))
        (noNull : (w.nodeOf number).tag ≠ .null) : Works g w (between.put number m) := by
      obtain ⟨_, _, ⟨⟩, ⟨⟩⟩ := run_bind_ok.mp waits
      refine works_collection ⟨known, noMerge, fun _ => rfl⟩ ?_
      by_contra outside
      rw [nodeOf, Array.getElem?_eq_none (Nat.le_of_not_lt outside)] at noNull
      exact noNull rfl
    cases tag with
    | sequence | mapping | set | orderedMap | pairs => exact collection made (by simp [← same])
    | other _ | merge | value => cases made
    | _ => exact leaf made (by simp [← same])

theorem keepsWorks_object (number : Nat) : Keeps (Works g) (object number) := fun _ _ _ run => (works_object run).1

theorem keepsWorks_objects (numbers : List Nat) : Keeps (Works g) (objects numbers) := by
  induction numbers with
  | nil => exact .pure _
  | cons number numbers ih => exact .bind (keepsWorks_object number) fun _ => ih

/-! ## Merging -/

theorem keepsWorks_entriesOf (number : Nat) : Keeps (Works g) (entriesOf number) := by
  intro w entries after run
  rw [← (entriesOf_ok run).2]
  exact Std.Refl.refl w

/-- Other mappings' entries come before those of a mapping. -/
theorem works_front (w : Workshop) (number : Nat) (front : List (Nat × Nat)) :
    Works g w { w with nodes := w.nodes.modify number fun
      | ⟨tag, .mapping entries⟩ => ⟨tag, .mapping (front ++ entries)⟩
      | node => node } := by
  refine works_modify fun tended => ?_
  have stays := tended.nodes number
  split
  · next tag entries same =>
    rw [same] at stays
    refine stays.change rfl ?_
    rw [List.filter_append]
    exact List.suffix_append _ _
  · exact stays

/-- A merge key is taken away. -/
theorem works_erase {w : Workshop} {number index : Nat} {entries : List (Nat × Nat)} {e : Nat × Nat}
    (content : (w.nodeOf number).content = .mapping entries) (found : entries[index]? = some e)
    (merge : (w.nodeOf e.1).tag = .merge) : Works g w { w with nodes := w.nodes.modify number fun
      | ⟨tag, .mapping entries⟩ => ⟨tag, .mapping (entries.eraseIdx index)⟩
      | node => node } := by
  refine works_modify fun tended => ?_
  have stays := tended.nodes number
  split
  · next tag listed same =>
    rw [same] at content stays
    cases content
    refine stays.change rfl ?_
    obtain ⟨inside, rfl⟩ := List.getElem?_eq_some_iff.mp found
    -- A merge key was one when it was written, so the entry taken away is none of the mapping's own.
    have foreign : g.isOwn entries[index] = false := by
      have written := (tended.nodes entries[index].1).merge_iff.mp merge
      simp [Graph.isOwn, written]
    have split : entries = entries.take index ++ entries[index] :: entries.drop (index + 1) := by
      rw [List.getElem_cons_drop, List.take_append_drop]
    have whole := congrArg (List.filter g.isOwn) split
    rw [List.filter_append, List.filter_cons, foreign, if_neg Bool.false_ne_true, ← List.filter_append,
      ← List.eraseIdx_eq_take_drop_succ] at whole
    exact ⟨[], whole⟩
  · exact stays

/-- Merging changes nodes as merging does. -/
theorem keepsWorks_merging (fuel : Nat) : (∀ number, Keeps (Works g) (merge fuel number)) ∧
    (∀ number index front, Keeps (Works g) (mergeFrom fuel number index front)) ∧
    ∀ numbers, Keeps (Works g) (mergeAll fuel numbers) := by
  induction fuel with
  | zero => exact ⟨fun _ => .throw _, fun _ _ _ => .throw _, fun _ => .throw _⟩
  | succ fuel ih =>
    obtain ⟨one, rest, all⟩ := ih
    refine ⟨fun number => ?_, fun number index front => ?_, fun numbers => ?_⟩
    · refine .bind (keepsWorks_entriesOf number) fun _ => .bind (rest number 0 []) fun front => ?_
      rintro w _ _ ⟨⟩
      exact works_front w number front
    · intro w brought after run
      simp only [mergeFrom, run_bind_ok] at run
      obtain ⟨entries, _, read, run⟩ := run
      obtain ⟨content, rfl⟩ := entriesOf_ok read
      split at run
      · cases run
        exact Std.Refl.refl _
      · next key value found =>
        simp only [run_bind_ok] at run
        obtain ⟨tag, _, read, run⟩ := run
        obtain ⟨same, rfl⟩ := tagOf_ok read
        split at run
        · simp only [run_bind_ok] at run
          obtain ⟨_, _, ⟨⟩, node, _, read, run⟩ := run
          obtain ⟨-, rfl⟩ := node_ok read
          refine IsTrans.trans _ _ _ (works_erase content found same.symm) ?_
          split at run
          · obtain ⟨_, between, first, run⟩ := run_bind_ok.mp run
            obtain ⟨more, next, second, run⟩ := run_bind_ok.mp run
            exact IsTrans.trans _ _ _ (one value _ _ _ first)
              (IsTrans.trans _ _ _ (keepsWorks_entriesOf value _ _ _ second) (rest number index _ _ _ _ run))
          · obtain ⟨more, between, first, run⟩ := run_bind_ok.mp run
            exact IsTrans.trans _ _ _ (all _ _ _ _ first) (rest number index _ _ _ _ run)
          · cases run
        · simp only [run_bind_ok] at run
          obtain ⟨_, _, ⟨⟩, run⟩ := run
          have text : Works g w { w with nodes := w.nodes.modify key fun node => { node with tag := .text } } :=
            works_modify fun tended => (tended.nodes key).text same.symm
          exact IsTrans.trans _ _ _ text (rest number (index + 1) front _ _ _ run)
        · exact rest number (index + 1) front _ _ _ run
    · cases numbers with
      | nil => exact .pure _
      | cons number numbers =>
        exact .bind (one number) fun _ => .bind (keepsWorks_entriesOf number) fun _ =>
          .bind (all numbers) fun _ => .pure _

end Make

end Converge.Document
