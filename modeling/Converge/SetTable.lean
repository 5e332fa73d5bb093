import Converge.Value

/-!
# Sets as tables

A set keeps its members in a table, each at the first free place on a way through the table that its
hash begins, and lists them from the first place to the last. The table begins with eight places and
grows before it gets full. The hash of a number is known; that of other values is not, and taken to
be zero, so that these are listed as they were put in.
-/

namespace Converge.Value.SetTable

/-- The numbers to which hashes of whole numbers are reduced. -/
def modulus : Int := 0x1FFFFFFFFFFFFFFF

/-- Hashes are numbers of 64 bits. -/
def bound : Int := 0x10000000000000000

/-- The hash of a whole number; that of -1 is moved by one. -/
def hashOfInt (i : Int) : Nat :=
  let reduced := i.sign * (i.natAbs % modulus)
  ((if reduced = -1 then -2 else reduced) % bound).toNat

def hash (v : Value) : Nat := (v.wholeNumber?.map hashOfInt).getD 0

/-- A table of numbers of members. -/
abbrev Slots := List (Option Nat)

/-- How many places after one are tried before the way leads on. -/
def probes : Nat := 9

/-- The first free place on a way through a table. -/
def freePlace (slots : Slots) : (fuel : Nat) → (place perturbation : Nat) → Nat
  | 0, place, _ => place
  | fuel + 1, place, perturbation =>
    let last := if place + probes < slots.length then place + probes else place
    let tried := (List.range (last + 1 - place)).map (place + ·)
    match tried.find? fun p => slots[p]? = some none with
    | some free => free
    | none =>
      let perturbation := perturbation / 32
      freePlace slots fuel ((place * 5 + 1 + perturbation) % slots.length) perturbation

def put (hashes : List Nat) (slots : Slots) (member : Nat) : Slots :=
  let hash := hashes.getD member 0
  slots.set (freePlace slots (slots.length + 64) (hash % slots.length) hash) (some member)

/-- The size of a table for more than some members: a power of two, eight at least. -/
def sizeAbove : (fuel size members : Nat) → Nat
  | 0, size, _ => size
  | fuel + 1, size, members => if members < size then size else sizeAbove fuel (2 * size) members

/-- The table with room for more than some members. -/
def resize (hashes : List Nat) (slots : Slots) (members : Nat) : Slots :=
  (slots.filterMap id).foldl (put hashes) (.replicate (sizeAbove members 8 members) none)

/-- The table with one member more, grown if it gets full. -/
def insert (hashes : List Nat) (slots : Slots) (member : Nat) : Slots :=
  let after := put hashes slots member
  let used := (after.filterMap id).length
  if used * 5 < (slots.length - 1) * 3 then after else resize hashes after (4 * used)

/-- The table of members with some hashes, which are put in one after the other. -/
def ofHashes (hashes : List Nat) : Slots :=
  let empty : Slots := .replicate 8 none
  let start := if hashes.length * 5 < 21 then empty else resize hashes empty (2 * hashes.length)
  (List.range hashes.length).foldl (insert hashes) start

end Converge.Value.SetTable

namespace Converge

/-- Sets list their members by their places in a table. -/
def Value.SetOrder.asTable : Value.SetOrder where
  arrange items :=
    let slots := SetTable.ofHashes (items.map SetTable.hash)
    (items.zipIdx.mergeSort fun a b => slots.idxOf (some a.2) ≤ slots.idxOf (some b.2)).map Prod.fst
  perm items := by
    have places := ((items.zipIdx).mergeSort_perm fun a b =>
      (SetTable.ofHashes (items.map SetTable.hash)).idxOf (some a.2) ≤
        (SetTable.ofHashes (items.map SetTable.hash)).idxOf (some b.2)).map Prod.fst
    rwa [List.zipIdx_map_fst] at places

end Converge
