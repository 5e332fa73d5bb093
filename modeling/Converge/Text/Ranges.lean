/-!
# Character classes by boundary

A class of characters is written as the increasing list of the code points at which membership
changes: it begins at the first, ends before the second, begins again at the third.
-/

namespace Converge.Text

/-- The code points at which membership changes, in increasing order. -/
abbrev Ranges := List Nat

/-- A code point is in the class when an odd number of changes has happened up to it. -/
def Ranges.holds (r : Ranges) (c : Nat) : Bool :=
  (r.takeWhile (· ≤ c)).length % 2 = 1

@[simp] theorem Ranges.holds_nil (c : Nat) : Ranges.holds [] c = false := rfl

end Converge.Text
