import Mathlib.Data.List.Perm.Basic
import Converge.Document.Share
import Converge.Fault

/-!
# Values that are the same but for the numbers of their shared parts

The number of a shared part only tells at which places the part stands. New numbers keep this (`Keeps`) when
the parts stay apart and one loses its number only where it stands once; the simplest numbers do so
(`same_normalShares`). What is shown of a value does not change with them (`shown_renumber`).
-/

namespace Converge.Value

mutual

/-- The numbers of the places where a collection stands again inside itself. -/
def agains : Value → List Nat
  | list _ items => againsOfAll items
  | tuple items => againsOfAll items
  | map _ entries => againsOfEntries entries
  | set _ items => againsOfAll items
  | again n _ => [n]
  | _ => []

/-- The numbers of such places in several values. -/
def againsOfAll : List Value → List Nat
  | [] => []
  | v :: rest => agains v ++ againsOfAll rest

/-- The numbers of such places in keys and values. -/
def againsOfEntries : List (Value × Value) → List Nat
  | [] => []
  | (k, v) :: rest => agains k ++ agains v ++ againsOfEntries rest

end

/-- New numbers keep what the numbers of shared parts tell: parts that have one stay apart, and a part is left
without only where it stands once, and not again inside itself. -/
structure Keeps (f : Nat → Share) (shares agains : List Nat) : Prop where
  apart : ∀ m ∈ shares, ∀ n ∈ shares, f m = f n → f n ≠ none → m = n
  once : ∀ n ∈ shares, f n = none → shares.count n ≤ 1
  again : ∀ n ∈ agains, f n ≠ none

/-- Values are the same but for the numbers of their shared parts. -/
def Same (v w : Value) : Prop := ∃ f, Keeps f v.shares v.agains ∧ w = v.renumber f

variable {f : Nat → Share} {shares around agains : List Nat}

namespace Keeps

theorem mono {fewer some : List Nat} (keeps : Keeps f shares agains) (sub : fewer.Subperm shares)
    (inside : some ⊆ agains) : Keeps f fewer some where
  apart m member n other := keeps.apart m (sub.subset member) n (sub.subset other)
  once n member dropped := Nat.le_trans (sub.count_le n) (keeps.once n (sub.subset member) dropped)
  again n member := keeps.again n (inside member)

/-- A part that is left without a number stands nowhere else. -/
theorem not_mem {n : Nat} (keeps : Keeps f (around ++ n :: shares) agains) (dropped : f n = none) :
    n ∉ around ∧ n ∉ shares := by
  have single := keeps.once n (by simp) dropped
  rw [List.count_append, List.count_cons_self] at single
  exact ⟨List.count_eq_zero.mp (by omega), List.count_eq_zero.mp (by omega)⟩

/-- A number is among some exactly when the new one is among the new ones. -/
theorem contains_filterMap {n k : Nat} (keeps : Keeps f shares agains) (within : around ⊆ shares) (member : n ∈ shares)
    (kept : f n = some k) : (around.filterMap f).contains k = around.contains n := by
  rw [Bool.eq_iff_iff, List.contains_iff_mem, List.contains_iff_mem, List.mem_filterMap]
  constructor
  · rintro ⟨m, inside, same⟩
    rwa [← keeps.apart m (within inside) n member (same.trans kept.symm) (by simp [kept])]
  · exact fun inside => ⟨n, inside, kept⟩

end Keeps

/-! ## Shown values -/

/-- Whether a collection stands inside itself does not depend on the numbers. -/
theorem any_contains_renumber {share : Share} (keeps : Keeps f (around ++ (share.toList ++ shares)) agains) :
    (share.bind f).any (around.filterMap f).contains = share.any around.contains := by
  cases share with
  | none => rfl
  | some n =>
    cases kept : f n with
    | none =>
      have absent := (keeps.not_mem kept).1
      simp [Option.bind, kept, absent]
    | some k =>
      rw [Option.bind_some, kept]
      exact keeps.contains_filterMap (List.subset_append_left _ _) (by simp) kept

theorem toList_bind_append (share : Share) :
    (share.bind f).toList ++ around.filterMap f = (share.toList ++ around).filterMap f := by
  cases share with
  | none => rfl
  | some n => cases kept : f n <;> simp [kept]

/-- Inside a collection its number is one of those around. -/
theorem Keeps.inside {share : Share} (keeps : Keeps f (around ++ (share.toList ++ shares)) agains) :
    Keeps f ((share.toList ++ around) ++ shares) agains := by
  refine keeps.mono (List.Perm.subperm ?_) (List.Subset.refl _)
  rw [← List.append_assoc]
  exact List.perm_append_comm.append_right _

theorem Keeps.left {first second agains' : List Nat}
    (keeps : Keeps f (around ++ (first ++ second)) (agains ++ agains')) :
    Keeps f (around ++ first) agains :=
  keeps.mono ((List.sublist_append_left _ _).append_left _ |>.subperm) (List.subset_append_left _ _)

theorem Keeps.right {first second agains' : List Nat}
    (keeps : Keeps f (around ++ (first ++ second)) (agains ++ agains')) :
    Keeps f (around ++ second) agains' :=
  keeps.mono ((List.sublist_append_right _ _).append_left _ |>.subperm) (List.subset_append_right _ _)

/-- What stands after a part has the numbers of that part around it. -/
theorem Keeps.later {first second agains' : List Nat}
    (keeps : Keeps f (around ++ (first ++ second)) (agains ++ agains')) :
    Keeps f (around ++ first ++ second) agains' := by
  rw [← List.append_assoc] at keeps
  exact keeps.mono (List.Subperm.refl _) (List.subset_append_right _ _)

theorem renumberAll_isEmpty (items : List Value) : (renumberAll f items).isEmpty = items.isEmpty := by
  cases items <;> rfl

theorem renumberEntries_isEmpty (entries : List (Value × Value)) :
    (renumberEntries f entries).isEmpty = entries.isEmpty := by
  rcases entries with _ | ⟨⟨k, v⟩, rest⟩ <;> rfl

mutual

/-- What is shown of a value inside a collection does not depend on the numbers of shared parts. -/
theorem literalIn?_renumber (around : List Nat) (v : Value) (keeps : Keeps f (around ++ v.shares) v.agains) :
    literalIn? (around.filterMap f) (v.renumber f) = literalIn? around v := by
  match v with
  | .null | .bool _ | .int _ | .float _ | .text _ | .bytes _ | .date .. | .moment .. | .again .. | .foreign => rfl
  | .list share items =>
    simp only [renumber, literalIn?]
    rw [any_contains_renumber keeps, toList_bind_append, literalsIn?_renumber _ items keeps.inside]
  | .tuple items =>
    simp only [renumber, literalIn?]
    rw [literalsIn?_renumber around items keeps]
  | .map share entries =>
    simp only [renumber, literalIn?]
    rw [any_contains_renumber keeps, toList_bind_append, entryLiteralsIn?_renumber _ entries keeps.inside]
  | .set share items =>
    simp only [renumber, literalIn?]
    rw [renumberAll_isEmpty, literalsIn?_renumber around items
      (keeps.mono ((List.sublist_append_right _ _).append_left _).subperm (List.Subset.refl _))]

theorem literalsIn?_renumber (around : List Nat) (items : List Value)
    (keeps : Keeps f (around ++ sharesOfAll items) (againsOfAll items)) :
    literalsIn? (around.filterMap f) (renumberAll f items) = literalsIn? around items := by
  match items with
  | [] => rfl
  | v :: rest =>
    simp only [renumberAll, literalsIn?]
    rw [literalIn?_renumber around v keeps.left, literalsIn?_renumber around rest keeps.right]

theorem entryLiteralsIn?_renumber (around : List Nat) (entries : List (Value × Value))
    (keeps : Keeps f (around ++ sharesOfEntries entries) (againsOfEntries entries)) :
    entryLiteralsIn? (around.filterMap f) (renumberEntries f entries) = entryLiteralsIn? around entries := by
  match entries with
  | [] => rfl
  | (k, v) :: rest =>
    simp only [renumberEntries, entryLiteralsIn?]
    rw [literalIn?_renumber around k keeps.left.left, literalIn?_renumber around v keeps.left.right,
      entryLiteralsIn?_renumber around rest keeps.right]

end

theorem renumberEntries_eq (entries : List (Value × Value)) :
    renumberEntries f entries = entries.map fun e => (e.1.renumber f, e.2.renumber f) := by
  induction entries with
  | nil => rfl
  | cons e entries ih => rw [renumberEntries, ih, List.map_cons]

/-! ## The simplest numbers -/

theorem idxOf?_inj {l : List Nat} {m n : Nat} (same : l.idxOf? m = l.idxOf? n) (some : l.idxOf? n ≠ none) : m = n := by
  obtain ⟨i, found⟩ := Option.ne_none_iff_exists'.mp some
  obtain ⟨_, first, -⟩ := List.findIdx?_eq_some_iff_getElem.mp found
  obtain ⟨_, second, -⟩ := List.findIdx?_eq_some_iff_getElem.mp (same.trans found)
  rw [← eq_of_beq first, ← eq_of_beq second]

theorem mem_repeated {l : List Nat} {n : Nat} : n ∈ repeated l ↔ 2 ≤ l.count n := by
  simp only [repeated, List.mem_eraseDups, List.mem_filter, decide_eq_true_eq]
  exact ⟨fun both => both.2, fun often => ⟨List.count_pos_iff.mp (by omega), often⟩⟩

/-- A value whose collections stand again only inside themselves is the same with the simplest numbers. -/
theorem same_normalShares {v : Value} (inside : ∀ n ∈ v.agains, 2 ≤ v.shares.count n) : Same v v.normalShares := by
  refine ⟨_, ⟨fun m _ n _ => idxOf?_inj, fun n _ dropped => ?_, fun n member => ?_⟩, rfl⟩
  · have rare := List.idxOf?_eq_none_iff.mp dropped
    rw [mem_repeated] at rare
    omega
  · rw [Ne, List.idxOf?_eq_none_iff, not_not, mem_repeated]
    exact inside n member

/-! ## Equal values -/

mutual

/-- Two values are equal, the numbers of their shared parts too. -/
def equals : Value → Value → Bool
  | null, null => true
  | bool a, bool b => a == b
  | int a, int b => a == b
  | float a, float b => a == b
  | text a, text b => a == b
  | bytes a, bytes b => a.data == b.data
  | date s a, date t b => s == t && a == b
  | moment s a, moment t b => s == t && a == b
  | list s a, list t b => s == t && equalsAll a b
  | tuple a, tuple b => equalsAll a b
  | map s a, map t b => s == t && equalsEntries a b
  | set s a, set t b => s == t && equalsAll a b
  | again m a, again n b => m == n && a == b
  | foreign, foreign => true
  | _, _ => false

def equalsAll : List Value → List Value → Bool
  | [], [] => true
  | a :: as, b :: bs => equals a b && equalsAll as bs
  | _, _ => false

/-- The keys and values of two mappings are equal, one by one. -/
def equalsEntries : List (Value × Value) → List (Value × Value) → Bool
  | [], [] => true
  | (k, a) :: as, (l, b) :: bs => equals k l && equals a b && equalsEntries as bs
  | _, _ => false

end

mutual

theorem equals_iff (v w : Value) : equals v w = true ↔ v = w := by
  match v with
  | .null | .bool _ | .int _ | .float _ | .text _ | .bytes _ | .date .. | .moment .. | .again .. | .foreign =>
    cases w <;> simp [equals, ByteArray.ext_iff]
  | .list _ items => cases w <;> simp [equals, equalsAll_iff items]
  | .tuple items => cases w <;> simp [equals, equalsAll_iff items]
  | .map _ entries => cases w <;> simp [equals, equalsEntries_iff entries]
  | .set _ items => cases w <;> simp [equals, equalsAll_iff items]

theorem equalsAll_iff (items others : List Value) : equalsAll items others = true ↔ items = others := by
  match items with
  | [] => cases others <;> simp [equalsAll]
  | v :: rest => cases others <;> simp [equalsAll, equals_iff v, equalsAll_iff rest]

theorem equalsEntries_iff (entries others : List (Value × Value)) :
    equalsEntries entries others = true ↔ entries = others := by
  match entries with
  | [] => cases others <;> simp [equalsEntries]
  | (k, v) :: rest =>
    cases others <;> simp [equalsEntries, Prod.ext_iff, equals_iff k, equals_iff v, equalsEntries_iff rest, and_assoc]

end

instance : DecidableEq Value := fun v w => decidable_of_iff _ (equals_iff v w)

end Converge.Value
