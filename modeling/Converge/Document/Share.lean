import Converge.Value

/-!
# Shared parts

The numbers of shared parts in their simplest form: only a part that stands at two places or more
has one, and they count up from zero in the order in which the parts first appear. A collection that
stands again inside itself has a number for that.
-/

namespace Converge.Value

mutual

/-- The numbers of the parts of a value, in order and with repetition. -/
def shares : Value → List Nat
  | date s _ => s.toList
  | moment s _ => s.toList
  | list s items => s.toList ++ sharesOfAll items
  | tuple items => sharesOfAll items
  | map s entries => s.toList ++ sharesOfEntries entries
  | set s items => s.toList ++ sharesOfAll items
  | again n _ => [n]
  | _ => []

/-- The numbers of the parts of several values. -/
def sharesOfAll : List Value → List Nat
  | [] => []
  | v :: rest => shares v ++ sharesOfAll rest

/-- The numbers of the parts of keys and values. -/
def sharesOfEntries : List (Value × Value) → List Nat
  | [] => []
  | (k, v) :: rest => shares k ++ shares v ++ sharesOfEntries rest

end

mutual

/-- The value with other numbers for its parts. -/
def renumber (f : Nat → Share) : Value → Value
  | date s d => date (s.bind f) d
  | moment s m => moment (s.bind f) m
  | list s items => list (s.bind f) (renumberAll f items)
  | tuple items => tuple (renumberAll f items)
  | map s entries => map (s.bind f) (renumberEntries f entries)
  | set s items => set (s.bind f) (renumberAll f items)
  | again n shape => again ((f n).getD n) shape
  | v => v

/-- The values with other numbers for their parts. -/
def renumberAll (f : Nat → Share) : List Value → List Value
  | [] => []
  | v :: rest => renumber f v :: renumberAll f rest

/-- The keys and values with other numbers for their parts. -/
def renumberEntries (f : Nat → Share) : List (Value × Value) → List (Value × Value)
  | [] => []
  | (k, v) :: rest => (renumber f k, renumber f v) :: renumberEntries f rest

end

/-- The members of a list that occur in it twice or more, each once, in order. -/
def repeated (ns : List Nat) : List Nat :=
  (ns.filter fun n => 2 ≤ ns.count n).eraseDups

/-- The value with the numbers of its shared parts in their simplest form. -/
def normalShares (v : Value) : Value :=
  let shared := repeated v.shares
  v.renumber fun n => shared.idxOf? n

end Converge.Value
