import Converge.Proofs.Merging

/-!
# Entries that documents are written with

A mapping is filled with entries one after the other: those that merging brought, and then its own. Whether two keys
are the same does not change once they are made (`Works.isSameKey_eq`), so the entry that is written last for a key is
kept, under the first form of the key (`Lasts.mem_insertAll`). Every collection that waits is filled in the end
(`fillAll_progress`).
-/

namespace Converge.Document

/-! ## Keys -/

/-- A node is written as what is not a number is written in the usual way. -/
def Node.isUsualNan : Node → Bool
  | ⟨.fraction, .scalar text⟩ =>
    (Text.takeSign (Text.lowerChars (text.toList.filter (· != '_')))).2 == ['.', 'n', 'a', 'n']
  | _ => false

theorem Graph.Stays.isUsualNan {g : Graph} {number : Nat} {node : Node} (stays : g.Stays number node) :
    node.isUsualNan = (g.node number).isUsualNan := by
  have noNan (tag : Tag) (content : Content) (other : tag ≠ .fraction) : Node.isUsualNan ⟨tag, content⟩ = false := by
    unfold Node.isUsualNan
    split
    · next same =>
      cases same
      exact absurd rfl other
    · rfl
  obtain ⟨tag, plain, mapping⟩ := stays
  generalize g.node number = written at tag plain mapping
  obtain ⟨before, content⟩ := written
  obtain ⟨after, content'⟩ := node
  obtain same | ⟨value, text⟩ := tag
  · cases content with
    | mapping entries =>
      obtain ⟨now, same', -⟩ := mapping entries rfl
      cases same'
      simp [Node.isUsualNan]
    | _ =>
      have same' := plain nofun
      cases same
      cases same'
      rfl
  · cases value
    cases text
    rw [noNan .text _ nofun, noNan .value _ nofun]

namespace Workshop

open Make (isSameKey insertEntry mem_insertEntry)

theorem isSameKey_iff (w : Workshop) (a b : Nat) : isSameKey w a b = true ↔
    a = b ∨ ((w.nodeOf a).isUsualNan = true ∧ (w.nodeOf b).isUsualNan = true) ∨
      ∃ x y, w.madeOf a = some (.leaf x) ∧ w.madeOf b = some (.leaf y) ∧ Value.sameKey x y = true := by
  unfold isSameKey
  dsimp only
  rw [Bool.or_eq_true, Bool.or_eq_true, beq_iff_eq, Bool.and_eq_true, or_assoc]
  refine or_congr Iff.rfl (or_congr (and_congr ?_ ?_) ?_)
  · rw [nodeOf]
    cases w.nodes[a]? with
    | none => exact Iff.rfl
    | some node =>
      obtain ⟨tag, content⟩ := node
      cases tag <;> cases content <;> exact Iff.rfl
  · rw [nodeOf]
    cases w.nodes[b]? with
    | none => exact Iff.rfl
    | some node =>
      obtain ⟨tag, content⟩ := node
      cases tag <;> cases content <;> exact Iff.rfl
  · unfold madeOf
    split
    · next x y first second => simp [first, second]
    · next other =>
      refine iff_of_false Bool.false_ne_true ?_
      rintro ⟨x, y, first, second, -⟩
      exact other x y first second

theorem isSameKey_self (w : Workshop) (a : Nat) : isSameKey w a a = true :=
  (w.isSameKey_iff a a).mpr (.inl rfl)

variable {g : Graph} {w after : Workshop}

theorem Settled.madeOf {number : Nat} (settled : w.Settled number) (grows : Grows w after) :
    after.madeOf number = w.madeOf number := by
  rcases settled with outside | ⟨v, leaf⟩
  · rw [Workshop.madeOf, Workshop.madeOf, Array.getElem?_eq_none outside,
      Array.getElem?_eq_none (grows.room ▸ outside)]
  · rw [leaf]
    exact grows.made number _ leaf

/-- Whether two keys are the same does not change once they are made. -/
theorem Works.isSameKey_eq (works : Works g w after) (tended : g.Tended w) {a b : Nat} (first : w.Settled a)
    (second : w.Settled b) : isSameKey after a b = isSameKey w a b := by
  have usual (n : Nat) : (after.nodeOf n).isUsualNan = (w.nodeOf n).isUsualNan := by
    rw [((works.tended tended).nodes n).isUsualNan, (tended.nodes n).isUsualNan]
  rw [Bool.eq_iff_iff, isSameKey_iff, isSameKey_iff, usual, usual, first.madeOf works.grows, second.madeOf works.grows]

theorem Works.insertEntry_eq (works : Works g w after) (tended : g.Tended w) {key value : Nat}
    {entries : List (Nat × Nat)} (settled : ∀ e ∈ entries, w.Settled e.1) (own : w.Settled key) :
    insertEntry after key value entries = insertEntry w key value entries := by
  induction entries with
  | nil => rfl
  | cons e entries ih =>
    rw [insertEntry, insertEntry, works.isSameKey_eq tended (settled e (by simp)) own,
      ih fun other member => settled other (by simp [member])]

/-- Entries are put in one after the other. -/
def insertAll (w : Workshop) (entries : List (Nat × Nat)) (soFar : List (Nat × Nat)) : List (Nat × Nat) :=
  entries.foldl (fun all e => insertEntry w e.1 e.2 all) soFar

theorem Works.insertAll_eq (works : Works g w after) (tended : g.Tended w) {entries soFar : List (Nat × Nat)}
    (settled : ∀ e ∈ soFar, w.Settled e.1) (own : ∀ e ∈ entries, w.Settled e.1) :
    after.insertAll entries soFar = w.insertAll entries soFar := by
  induction entries generalizing soFar with
  | nil => rfl
  | cons e entries ih =>
    have key := own e (by simp)
    have more : ∀ other ∈ insertEntry w e.1 e.2 soFar, w.Settled other.1 := by
      intro other member
      rcases mem_insertEntry member with same | ⟨known, inside, same⟩
      · exact same ▸ key
      · exact same ▸ settled known inside
    simp only [Workshop.insertAll, List.foldl_cons, works.insertEntry_eq tended settled key]
    exact ih more fun other member => own other (by simp [member])

/-- An entry is put in under its key or one that is the same. -/
theorem exists_mem_insertEntry (w : Workshop) (key value : Nat) (entries : List (Nat × Nat)) :
    ∃ k, isSameKey w k key ∧ (k, value) ∈ insertEntry w key value entries := by
  induction entries with
  | nil => exact ⟨key, isSameKey_self w key, by simp [insertEntry]⟩
  | cons e entries ih =>
    obtain ⟨k, v⟩ := e
    rw [insertEntry]
    split
    · next same => exact ⟨k, same, List.mem_cons_self⟩
    · obtain ⟨k', same, member⟩ := ih
      exact ⟨k', same, List.mem_cons_of_mem _ member⟩

/-- Only an entry with the same key puts out another. -/
theorem mem_insertEntry_of_mem {key value : Nat} {entries : List (Nat × Nat)} {e : Nat × Nat} (member : e ∈ entries)
    (other : ¬ isSameKey w e.1 key) : e ∈ insertEntry w key value entries := by
  induction entries with
  | nil => cases member
  | cons first entries ih =>
    obtain ⟨k, v⟩ := first
    rw [insertEntry]
    rcases List.mem_cons.mp member with rfl | later
    · rw [if_neg other]
      exact List.mem_cons_self
    · split
      · exact List.mem_cons_of_mem _ later
      · exact List.mem_cons_of_mem _ (ih later)

theorem mem_insertAll_of_mem {entries soFar : List (Nat × Nat)} {e : Nat × Nat} (member : e ∈ soFar)
    (others : ∀ other ∈ entries, ¬ isSameKey w e.1 other.1) : e ∈ w.insertAll entries soFar := by
  induction entries generalizing soFar with
  | nil => exact member
  | cons first entries ih =>
    have still : e ∈ insertEntry w first.1 first.2 soFar := mem_insertEntry_of_mem member (others first (by simp))
    exact ih still fun other inside => others other (by simp [inside])

/-- No entry after one has its key, in whatever form. -/
def Lasts (w : Workshop) (entries : List (Nat × Nat)) (e : Nat × Nat) : Prop :=
  ∃ before later, entries = before ++ e :: later ∧
    ∀ form, isSameKey w form e.1 → ∀ other ∈ later, ¬ isSameKey w form other.1

/-- The last entry for a key is kept, under the first form of the key. -/
theorem Lasts.mem_insertAll {entries : List (Nat × Nat)} {e : Nat × Nat} (lasts : w.Lasts entries e)
    (soFar : List (Nat × Nat)) : ∃ form, isSameKey w form e.1 ∧ (form, e.2) ∈ w.insertAll entries soFar := by
  obtain ⟨before, later, rfl, last⟩ := lasts
  obtain ⟨form, same, member⟩ := w.exists_mem_insertEntry e.1 e.2 (w.insertAll before soFar)
  refine ⟨form, same, ?_⟩
  rw [Workshop.insertAll, List.foldl_append, List.foldl_cons]
  exact mem_insertAll_of_mem member (last form same)

/-- What a collection holds: its keys are no collections, and a mapping has its own entries put in after those that
merging brought. -/
structure Fills (g : Graph) (w : Workshop) (number : Nat) (held : Filling) : Prop where
  keys : ∀ entries, held = .entries entries → ∀ e ∈ entries, w.Settled e.1
  mapping : (g.node number).tag = .mapping → ∃ front, held = .entries (w.insertAll (front ++ g.written number) []) ∧
    ∀ e ∈ front ++ g.written number, w.Settled e.1 ∧ w.Begun e.2

/-- What is neither a mapping nor filled as one has nothing to keep. -/
theorem Fills.other {number : Nat} {held : Filling} (noEntries : ∀ entries, held ≠ .entries entries)
    (noMapping : (g.node number).tag ≠ .mapping) : Fills g w number held where
  keys entries same := absurd same (noEntries entries)
  mapping written := absurd written noMapping

theorem Fills.works {number : Nat} {held : Filling} (fills : Fills g w number held) (tended : g.Tended w)
    (works : Works g w after) : Fills g after number held where
  keys entries same e member := works.grows.settled (fills.keys entries same e member)
  mapping tag := by
    obtain ⟨front, rfl, made⟩ := fills.mapping tag
    refine ⟨front, ?_, fun e member => ⟨works.grows.settled (made e member).1, works.grows.begun (made e member).2⟩⟩
    rw [works.insertAll_eq tended (by simp) fun e member => (made e member).1]

/-- What a collection should hold does not depend on what waits or is filled. -/
theorem Fills.congr {number : Nat} {held : Filling} (fills : Fills g w number held) (nodes : after.nodes = w.nodes)
    (made : after.made = w.made) : Fills g after number held := by
  have madeOf (n : Nat) : after.madeOf n = w.madeOf n := by rw [Workshop.madeOf, made, ← Workshop.madeOf]
  have same (a b : Nat) : isSameKey after a b = isSameKey w a b := by
    have nodeOf (n : Nat) : after.nodeOf n = w.nodeOf n := by rw [Workshop.nodeOf, nodes, ← Workshop.nodeOf]
    rw [Bool.eq_iff_iff, isSameKey_iff, isSameKey_iff, nodeOf, nodeOf, madeOf, madeOf]
  have insert (key value : Nat) (entries : List (Nat × Nat)) :
      insertEntry after key value entries = insertEntry w key value entries := by
    induction entries with
    | nil => rfl
    | cons e entries ih => rw [insertEntry, insertEntry, same, ih]
  have settled {n : Nat} (known : w.Settled n) : after.Settled n := by rwa [Settled, made, madeOf]
  have begun {n : Nat} (known : w.Begun n) : after.Begun n := by rwa [Begun, made, madeOf]
  refine ⟨fun entries held e member => settled (fills.keys entries held e member), fun tag => ?_⟩
  obtain ⟨front, rfl, all⟩ := fills.mapping tag
  refine ⟨front, ?_, fun e member => ⟨settled (all e member).1, begun (all e member).2⟩⟩
  have puts : (fun all (e : Nat × Nat) => insertEntry after e.1 e.2 all) = fun all e => insertEntry w e.1 e.2 all := by
    funext all e
    exact insert e.1 e.2 all
  rw [insertAll, insertAll, puts]

end Workshop

namespace Make

open Workshop

variable {g : Graph}

/-- The entries of a mapping are put in one after the other, once their keys and values are made. -/
theorem entries_ok {l soFar entries : List (Nat × Nat)} {w after : Workshop}
    (run : (Make.entries soFar l).run w = .ok (entries, after)) (tended : g.Tended w)
    (settled : ∀ e ∈ soFar, w.Settled e.1) :
    Works g w after ∧ entries = after.insertAll l soFar ∧ ∀ e ∈ l, g.isOwn e ∧ after.Settled e.1 ∧ after.Begun e.2 := by
  induction l generalizing soFar w with
  | nil =>
    cases run
    exact ⟨Std.Refl.refl _, rfl, by simp⟩
  | cons e l ih =>
    obtain ⟨key, value⟩ := e
    simp only [Make.entries, run_bind_ok] at run
    obtain ⟨m, between, first, run⟩ := run
    obtain ⟨works, noMerge, -⟩ := works_object (g := g) first
    cases m with
    | collection => cases run
    | leaf v =>
      simp only [run_bind_ok] at run
      obtain ⟨_, next, second, _, _, ⟨⟩, run⟩ := run
      obtain ⟨more, -, begun⟩ := works_object (g := g) second
      have both : Works g w next := IsTrans.trans _ _ _ works more
      have tended' := both.tended tended
      have own : next.Settled key := more.grows.settled ((object_result first).2 v rfl)
      have known : ∀ e ∈ soFar, next.Settled e.1 := fun e member => both.grows.settled (settled e member)
      have put : ∀ e ∈ insertEntry next key value soFar, next.Settled e.1 := by
        intro e member
        rcases mem_insertEntry member with same | ⟨other, inside, same⟩
        · exact same ▸ own
        · exact same ▸ known other inside
      obtain ⟨rest, rfl, all⟩ := ih run tended' put
      refine ⟨IsTrans.trans _ _ _ both rest, ?_, ?_⟩
      · rw [insertAll, insertAll, List.foldl_cons, rest.insertEntry_eq tended' known own]
      · intro e member
        rcases List.mem_cons.mp member with rfl | later
        · exact ⟨by simpa [Graph.isOwn] using noMerge tended, rest.grows.settled own, rest.grows.begun begun⟩
        · exact all e later

theorem keepsWorks_mergeBound : Keeps (Works g) mergeBound := .bind .get fun _ => .pure _

/-- A mapping has its own entries put in after those that merging brings. -/
theorem mapping_ok {number : Nat} {entries : List (Nat × Nat)} {w after : Workshop}
    (run : (mapping number).run w = .ok (entries, after)) (tended : g.Tended w) :
    Works g w after ∧ ∃ front, entries = after.insertAll (front ++ g.written number) [] ∧
      ∀ e ∈ front ++ g.written number, after.Settled e.1 ∧ after.Begun e.2 := by
  simp only [mapping, run_bind_ok] at run
  obtain ⟨_, _, read, bound, counted, run₂, _, merged, run₃, now, _, read', run⟩ := run
  obtain ⟨-, rfl⟩ := entriesOf_ok read
  obtain ⟨content, rfl⟩ := entriesOf_ok read'
  have merging : Works g w merged :=
    IsTrans.trans _ _ _ (keepsWorks_mergeBound _ _ _ run₂) ((keepsWorks_merging bound).1 number _ _ _ run₃)
  have tended' := merging.tended tended
  obtain ⟨works, rfl, all⟩ := entries_ok run tended' (by simp)
  refine ⟨IsTrans.trans _ _ _ merging works, ?_⟩
  -- Every key has been made, and no merge key can be: none is left among the entries.
  have own : now.filter g.isOwn = now := List.filter_eq_self.mpr fun e member => (all e member).1
  have suffix : g.written number <:+ now := by
    have stays := tended'.nodes number
    rw [Graph.written]
    split
    · next written same =>
      obtain ⟨now', same', suffix⟩ := stays.mapping written same
      cases content.symm.trans same'
      rwa [own] at suffix
    · exact List.nil_suffix
  obtain ⟨front, rfl⟩ := suffix
  exact ⟨front, rfl, fun e member => (all e member).2⟩

theorem keepsWorks_pairs (numbers : List Nat) : Keeps (Works g) (pairs numbers) := by
  induction numbers with
  | nil => exact .pure _
  | cons number numbers ih =>
    refine .bind (keepsWorks_entriesOf number) fun entries => ?_
    split
    · exact .bind (keepsWorks_objects _) fun _ => .bind ih fun _ => .pure _
    · exact .throw _

/-- What a collection is filled with. -/
theorem filling_ok {number : Nat} {held : Filling} {w after : Workshop}
    (run : (filling number).run w = .ok (held, after)) (tended : g.Tended w) :
    Works g w after ∧ Fills g after number held := by
  simp only [filling, run_bind_ok] at run
  obtain ⟨tag, _, read, run⟩ := run
  obtain ⟨same, rfl⟩ := tagOf_ok read
  have mapping (noMapping : tag ≠ .mapping) : (g.node number).tag ≠ .mapping := fun written =>
    noMapping (same.trans ((tended.nodes number).mapping_iff.mpr written))
  cases tag with
  | sequence =>
    simp only [run_bind_ok] at run
    obtain ⟨items, _, listed, _, _, made, ⟨⟩⟩ := run
    obtain rfl := itemsOf_ok listed
    exact ⟨keepsWorks_objects items _ _ _ made, .other (by simp) (mapping (by simp))⟩
  | orderedMap | pairs =>
    simp only [run_bind_ok] at run
    obtain ⟨items, _, listed, _, _, made, ⟨⟩⟩ := run
    obtain rfl := itemsOf_ok listed
    exact ⟨keepsWorks_pairs items _ _ _ made, .other (by simp) (mapping (by simp))⟩
  | set =>
    simp only [run_bind_ok] at run
    obtain ⟨entries, _, made, ⟨⟩⟩ := run
    exact ⟨(mapping_ok made tended).1, .other (by simp) (mapping (by simp))⟩
  | _ =>
    simp only [run_bind_ok] at run
    obtain ⟨entries, _, made, ⟨⟩⟩ := run
    obtain ⟨works, front, filled, all⟩ := mapping_ok made tended
    refine ⟨works, ?_, fun _ => ⟨front, congrArg _ filled, all⟩⟩
    rintro _ ⟨⟩
    exact (mapping_result made).2

end Make

/-! ## Whole documents -/

namespace Workshop

variable {g : Graph} {w : Workshop}

/-- All that is filled holds what it should, and every collection is filled or waits. -/
structure Progress (g : Graph) (w : Workshop) : Prop where
  tended : g.Tended w
  sound : w.Sound
  fills : ∀ number held, w.heldBy number = some held → Fills g w number held
  frontier : ∀ number, w.madeOf number = some .collection → number ∈ w.waiting ∨ ∃ held, w.heldBy number = some held

theorem heldBy_fill (w : Workshop) (number : Nat) (held : Filling) (n : Nat) :
    ({ w with filled := w.filled.set! number (some held) }).heldBy n =
      if n = number ∧ number < w.filled.size then some held else w.heldBy n := by
  rw [heldBy, heldBy, Array.set!_eq_setIfInBounds, Array.getElem?_setIfInBounds]
  by_cases same : number = n
  · by_cases inside : number < w.filled.size
    · simp [same, same ▸ inside]
    · subst same
      simp [inside]
  · simp [same, Ne.symm same]

/-- The first collection that waits is filled. -/
theorem Progress.fill (progress : Progress g w) {number : Nat} {rest : List Nat} (first : w.waiting = number :: rest)
    {held : Filling} {between : Workshop}
    (run : (Make.filling number).run { w with waiting := rest } = .ok (held, between)) :
    Progress g { between with filled := between.filled.set! number (some held) } ∧
      between.waiting.length + between.unmade < w.waiting.length + w.unmade ∧ Grows
    { w with waiting := rest } between := by
  have tended : g.Tended { w with waiting := rest } :=
    ⟨progress.tended.size, progress.tended.room, progress.tended.nodes, progress.tended.made⟩
  obtain ⟨works, fills⟩ := Make.filling_ok run tended
  obtain ⟨more, waiting, few, made⟩ := works.waiting tended
  have few' : more.length + between.unmade ≤ w.unmade := few
  have tended' := works.tended tended
  have begun : Sound { w with waiting := rest } := ⟨progress.sound.scalars, progress.sound.members, progress.sound.room⟩
  have sound : Sound { between with filled := between.filled.set! number (some held) } :=
    (begun.grows works.grows).fill (Make.filling_result run).2
  have filled : between.filled = w.filled := works.grows.filled
  have tended'' : g.Tended { between with filled := between.filled.set! number (some held) } :=
    ⟨tended'.size, tended'.room, tended'.nodes, tended'.made⟩
  refine ⟨⟨tended'', sound, fun n other found => ?_, fun n collection => ?_⟩, ?_, works.grows⟩
  · rw [heldBy_fill] at found
    split at found
    · next same =>
      cases found
      rw [same.1]
      exact fills.congr rfl rfl
    · have earlier : w.heldBy n = some other := by rwa [heldBy, filled] at found
      have before : Fills g { w with waiting := rest } n other := (progress.fills n other earlier).congr rfl rfl
      exact (before.works tended works).congr rfl rfl
  · -- It is the collection that is filled, or waited before, or came to wait meanwhile.
    rw [heldBy_fill]
    by_cases same : n = number
    · have inside : number < between.filled.size := by
        rw [← same, (begun.grows works.grows).room]
        by_contra outside
        have unmade : between.madeOf n = none := by rw [madeOf, Array.getElem?_eq_none (Nat.le_of_not_lt outside)]; rfl
        cases unmade.symm.trans collection
      rw [if_pos ⟨same, inside⟩]
      exact .inr ⟨held, rfl⟩
    · rw [if_neg fun both => same both.1]
      rcases made n collection with earlier | new
      · rcases progress.frontier n earlier with waits | ⟨other, found⟩
        · rw [first] at waits
          refine .inl ?_
          rw [waiting]
          exact List.mem_append_left _ ((List.mem_cons.mp waits).resolve_left same)
        · exact .inr ⟨other, by rwa [heldBy, filled]⟩
      · refine .inl ?_
        rw [waiting]
        exact List.mem_append_right _ new
  · rw [waiting, first, List.length_append, List.length_cons]
    dsimp only
    omega

end Workshop

namespace Make

open Workshop

variable {g : Graph}

/-- All collections are filled in the end. -/
theorem fillAll_progress {fuel : Nat} {w after : Workshop} (progress : Progress g w)
    (few : w.waiting.length + w.unmade ≤ fuel) (run : (fillAll fuel).run w = .ok ((), after)) :
    Progress g after ∧ after.waiting = [] ∧ ∀ n m, w.madeOf n = some m → after.madeOf n = some m := by
  induction fuel generalizing w with
  | zero =>
    cases run
    exact ⟨progress, List.eq_nil_of_length_eq_zero (by omega), fun _ _ => id⟩
  | succ fuel ih =>
    simp only [fillAll, run_bind_ok] at run
    obtain ⟨_, _, ⟨⟩, run⟩ := run
    split at run
    · next none =>
      cases run
      exact ⟨progress, none, fun _ _ => id⟩
    · next number rest first =>
      simp only [run_bind_ok] at run
      obtain ⟨_, _, ⟨⟩, held, between, filled, _, _, ⟨⟩, run⟩ := run
      obtain ⟨progress', fewer, grows⟩ := progress.fill first filled
      have few' : between.waiting.length + between.unmade ≤ fuel := by omega
      obtain ⟨done, none, kept⟩ := ih progress' few' run
      exact ⟨done, none, fun n m made => kept n m (grows.made n m made)⟩

end Make

/-- The making of all objects of a graph of nodes. -/
def Graph.make (g : Graph) : Except DocumentFault Workshop := do
  let size := g.nodes.size
  let start : Workshop := ⟨g.nodes, .replicate size none, .replicate size none, []⟩
  let ((), w) ← (do
    let _ ← Make.object g.root
    Make.fillAll (size + 1)).run start
  return w

theorem Graph.value_eq (sets : Value.SetOrder) (g : Graph) :
    g.value sets = g.make.map fun w => (w.value sets (g.nodes.size + 1) [] g.root).normalShares := by
  rw [Graph.value, Graph.make]
  dsimp only
  cases StateT.run _ _ with
  | error fault => rfl
  | ok made => rfl

/-- All objects of a graph are made: what is filled holds what it should, and every collection is filled. -/
structure Graph.Built (g : Graph) (w : Workshop) : Prop where
  progress : Workshop.Progress g w
  filled : ∀ number, w.madeOf number = some .collection → ∃ held, w.heldBy number = some held
  root : w.Begun g.root

theorem Graph.make_built {g : Graph} {w : Workshop} (made : g.make = .ok w) : g.Built w := by
  obtain ⟨⟨_, _⟩, run, ⟨⟩⟩ := bind_eq_ok.mp made
  obtain ⟨root, between, first, filled⟩ := Make.run_bind_ok.mp run
  have nothing {α : Type} (number : Nat) : ((Array.replicate g.nodes.size (none : Option α))[number]?).join = none := by
    rw [Array.getElem?_replicate]
    split <;> rfl
  have tended : g.Tended ⟨g.nodes, .replicate g.nodes.size none, .replicate g.nodes.size none, []⟩ :=
    ⟨rfl, by simp, .start g, fun number m found => by simp [Workshop.madeOf, nothing] at found⟩
  have sound : (⟨g.nodes, .replicate g.nodes.size none, .replicate g.nodes.size none, []⟩ : Workshop).Sound :=
    ⟨fun number v leaf => by simp [Workshop.madeOf, nothing] at leaf,
      fun number members held => by simp [Workshop.heldBy, nothing] at held, by simp⟩
  obtain ⟨works, -, begun⟩ := Make.works_object (g := g) first
  obtain ⟨more, waiting, few, collections⟩ := works.waiting tended
  have progress : Workshop.Progress g between := by
    refine ⟨works.tended tended, sound.grows works.grows, fun number held found => ?_, fun number collection => ?_⟩
    · rw [Workshop.heldBy, works.grows.filled, nothing] at found
      cases found
    · rcases collections number collection with earlier | new
      · simp [Workshop.madeOf, nothing] at earlier
      · exact .inl (waiting ▸ new)
  have enough : between.waiting.length + between.unmade ≤ g.nodes.size + 1 := by
    have all : more.length + between.unmade ≤ g.nodes.size := by
      refine Nat.le_trans few (Nat.le_trans (List.countP_le_length) ?_)
      simp
    rw [waiting, List.nil_append]
    omega
  obtain ⟨done, none, kept⟩ := Make.fillAll_progress progress enough filled
  refine ⟨done, fun number collection => ?_, ?_⟩
  · have waits := done.frontier number collection
    rw [none] at waits
    exact waits.resolve_left List.not_mem_nil
  · rcases begun with outside | ⟨m, begun⟩
    · exact .inl (by rw [done.tended.room, ← (works.tended tended).room]; exact outside)
    · exact .inr ⟨m, kept _ _ begun⟩

end Converge.Document
