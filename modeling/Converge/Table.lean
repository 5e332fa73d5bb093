/-!
# Tables in order of insertion

A table maps texts to values and keeps its keys in the order in which they were first inserted. A
later value for a key takes the place of the earlier one.
-/

namespace Converge

/-- The value of the first entry of a key. -/
def lookupIn {α : Type} (key : String) : List (String × α) → Option α
  | [] => none
  | (k, v) :: rest => if k = key then some v else lookupIn key rest

/-- The entries with a value put in the place of the key, at the end when the key is new. -/
def insertIn {α : Type} (key : String) (value : α) : List (String × α) → List (String × α)
  | [] => [(key, value)]
  | (k, v) :: rest => if k = key then (k, value) :: rest else (k, v) :: insertIn key value rest

/-- The keys after an insertion. -/
theorem keys_insertIn {α : Type} (key : String) (value : α) (l : List (String × α)) :
    (insertIn key value l).map Prod.fst =
      if key ∈ l.map Prod.fst then l.map Prod.fst else l.map Prod.fst ++ [key] := by
  induction l with
  | nil => rfl
  | cons e l ih =>
    obtain ⟨k, v⟩ := e
    by_cases h : k = key
    · simp [insertIn, h]
    · have h' : key ≠ k := Ne.symm h
      simp only [insertIn, h, if_false, List.map_cons, List.mem_cons, h', false_or, ih]
      split <;> rfl

/-- An insertion repeats no key. -/
theorem nodup_insertIn {α : Type} (key : String) (value : α) {l : List (String × α)}
    (h : (l.map Prod.fst).Nodup) : ((insertIn key value l).map Prod.fst).Nodup := by
  rw [keys_insertIn]
  split
  · exact h
  · next hk =>
    rw [List.nodup_append]
    refine ⟨h, by simp, ?_⟩
    intro a ha b hb hab
    rw [List.mem_singleton] at hb
    exact hk (hb ▸ hab ▸ ha)

/-- Entries with pairwise different keys. -/
structure Table (α : Type) where
  entries : List (String × α)
  nodup : (entries.map Prod.fst).Nodup

namespace Table

variable {α : Type}

/-- The table with no entry. -/
def empty : Table α := ⟨[], .nil⟩

instance : EmptyCollection (Table α) := ⟨empty⟩

instance : Inhabited (Table α) := ⟨empty⟩

/-- The value of a key. -/
def get? (t : Table α) (key : String) : Option α := lookupIn key t.entries

/-- The table with a value for a key: in the place of the key, or at the end when it is new. -/
def insert (t : Table α) (key : String) (value : α) : Table α :=
  ⟨insertIn key value t.entries, nodup_insertIn key value t.nodup⟩

/-- The table without a key. -/
def erase (t : Table α) (key : String) : Table α :=
  ⟨t.entries.filter fun e => e.1 != key, t.nodup.sublist (List.filter_sublist.map Prod.fst)⟩

def keys (t : Table α) : List String := t.entries.map Prod.fst

def values (t : Table α) : List α := t.entries.map Prod.snd

/-- The number of entries. -/
def size (t : Table α) : Nat := t.entries.length

/-- The key has a value. -/
def contains (t : Table α) (key : String) : Bool := (t.get? key).isSome

/-- The entries put in one after the other. -/
def insertAll (t : Table α) (entries : List (String × α)) : Table α :=
  entries.foldl (fun t e => t.insert e.1 e.2) t

/-- The table of entries, each put in after the ones before it. -/
def ofList (entries : List (String × α)) : Table α := insertAll empty entries

@[ext] theorem ext {s t : Table α} (h : s.entries = t.entries) : s = t := by
  cases s; cases t; cases h; rfl

@[simp] theorem entries_empty : (∅ : Table α).entries = [] := rfl

@[simp] theorem get?_empty (key : String) : (∅ : Table α).get? key = none := rfl

theorem lookupIn_insertIn (key k : String) (value : α) (l : List (String × α)) :
    lookupIn k (insertIn key value l) = if k = key then some value else lookupIn k l := by
  induction l with
  | nil => simp [insertIn, lookupIn, eq_comm]
  | cons e l ih =>
    obtain ⟨k', v'⟩ := e
    by_cases h : k' = key
    · subst h
      by_cases hk : k = k'
      · simp [insertIn, lookupIn, hk]
      · simp [insertIn, lookupIn, hk, Ne.symm hk]
    · by_cases hk : k = k'
      · subst hk
        simp [insertIn, lookupIn, h]
      · simp [insertIn, lookupIn, h, Ne.symm hk, ih]

/-- An insertion changes the value of its key alone. -/
@[simp] theorem get?_insert (t : Table α) (key k : String) (value : α) :
    (t.insert key value).get? k = if k = key then some value else t.get? k :=
  lookupIn_insertIn key k value t.entries

theorem lookupIn_eq_none {k : String} {l : List (String × α)} :
    lookupIn k l = none ↔ k ∉ l.map Prod.fst := by
  induction l with
  | nil => simp [lookupIn]
  | cons e l ih =>
    obtain ⟨k', v'⟩ := e
    by_cases h : k' = k
    · simp [lookupIn, h]
    · simp [lookupIn, h, Ne.symm h, ih]

/-- A key has no value when it is not among the keys. -/
theorem get?_eq_none {t : Table α} {k : String} : t.get? k = none ↔ k ∉ t.keys :=
  lookupIn_eq_none

theorem lookupIn_eq_some {k : String} {v : α} {l : List (String × α)} (nodup : (l.map Prod.fst).Nodup) :
    lookupIn k l = some v ↔ (k, v) ∈ l := by
  induction l with
  | nil => simp [lookupIn]
  | cons e l ih =>
    obtain ⟨k', v'⟩ := e
    obtain ⟨fresh, nodup⟩ := List.nodup_cons.mp nodup
    by_cases h : k' = k
    · subst h
      have other : (k', v) ∉ l := fun member => fresh (List.mem_map.mpr ⟨_, member, rfl⟩)
      simp [lookupIn, other, eq_comm]
    · simp [lookupIn, h, Ne.symm h, ih nodup]

/-- A key has a value when both are an entry. -/
theorem get?_eq_some {t : Table α} {k : String} {v : α} : t.get? k = some v ↔ (k, v) ∈ t.entries :=
  lookupIn_eq_some t.nodup

theorem insertIn_of_not_mem {key : String} {value : α} {l : List (String × α)}
    (h : key ∉ l.map Prod.fst) : insertIn key value l = l ++ [(key, value)] := by
  induction l with
  | nil => rfl
  | cons e l ih =>
    obtain ⟨k, v⟩ := e
    simp only [List.map_cons, List.mem_cons, not_or] at h
    simp [insertIn, Ne.symm h.1, ih h.2]

/-- A new key goes to the end. -/
theorem entries_insert_of_not_mem {t : Table α} {key : String} {value : α} (h : key ∉ t.keys) :
    (t.insert key value).entries = t.entries ++ [(key, value)] :=
  insertIn_of_not_mem h

/-- Putting in entries with new and different keys appends them. -/
theorem entries_insertAll (t : Table α) (l : List (String × α))
    (h : (t.keys ++ l.map Prod.fst).Nodup) : (t.insertAll l).entries = t.entries ++ l := by
  induction l generalizing t with
  | nil => simp [insertAll]
  | cons e l ih =>
    obtain ⟨k, v⟩ := e
    have hk : k ∉ t.keys := by
      rw [List.nodup_append] at h
      intro hm
      exact h.2.2 k hm k (by simp) rfl
    have hkeys : (t.insert k v).keys = t.keys ++ [k] := by
      rw [keys, entries_insert_of_not_mem hk]
      simp [keys]
    have := ih (t.insert k v) (by rw [hkeys]; simpa using h)
    rw [show insertAll t ((k, v) :: l) = insertAll (t.insert k v) l from rfl, this,
      entries_insert_of_not_mem hk]
    simp

/-- A table is the table of its entries. -/
@[simp] theorem ofList_entries (t : Table α) : ofList t.entries = t := by
  ext1
  have := entries_insertAll empty t.entries (by simpa [keys, empty] using t.nodup)
  simpa [ofList, empty] using this

end Table

end Converge
