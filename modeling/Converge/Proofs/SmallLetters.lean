import Mathlib.Data.List.TakeWhile
import Converge.Text.Blank
import Converge.Text.Case

/-!
# Small letters

A text in small letters stays as it is when it is put in small letters again (`lower_lower`): whatever a
character becomes is a character that stays the same wherever it stands.
-/

namespace Converge.Text

/-! ## Characters of one byte -/

/-- A property of the characters of one byte is one of the first 128. -/
theorem of_ascii (P : Char → Prop) (each : ∀ n < 128, P (Char.ofNat n)) {c : Char} (small : c.toNat < 128) : P c := by
  have own := each c.toNat small
  rwa [Char.ofNat_toNat] at own

theorem toNat_lt_of_toLower {c : Char} (small : c.toLower.toNat < 128) : c.toNat < 128 := by
  delta Char.toLower at small
  split at small
  · next capital =>
    have last : c.val.toNat ≤ 'Z'.val.toNat := UInt32.le_iff_toNat_le.mp capital.2
    exact last.trans_lt (by decide)
  · exact small

/-! ## Tables of shifts -/

namespace Shift

/-- The first code point that is moved to. -/
def least (s : Shift) : Nat := (s.first + s.distance).toNat

/-- The last code point that is moved to. -/
def most (s : Shift) : Nat := (s.last + s.distance).toNat

/-- A shift moves to no code point that another covers: it ends up before or after them, or between them. -/
def spares (s t : Shift) : Bool :=
  Nat.blt t.last s.least || Nat.blt s.most t.first ||
    (t.step == 2 && (s.step == 2 || s.first == s.last) && (s.least + t.first) % 2 == 1)

/-- A shift moves to characters. -/
def isInside (s : Shift) : Bool :=
  0 ≤ s.first + s.distance && (s.most < 0xd800 || (0xdfff < s.least && s.most < 0x110000))

variable {s t : Shift} {c n : Nat}

theorem between_of_move (moved : s.move? c = some n) : s.least ≤ n ∧ n ≤ s.most := by
  simp only [move?, Option.ite_none_right_eq_some, Option.some.injEq] at moved
  obtain ⟨⟨above, below, -⟩, rfl⟩ := moved
  rw [least, most]
  omega

theorem move?_spared (inside : s.isInside) (spared : s.spares t) (moved : s.move? c = some n) : t.move? n = none := by
  have range := between_of_move moved
  simp only [move?, Option.ite_none_right_eq_some, Option.some.injEq] at moved
  obtain ⟨⟨above, below, steps⟩, rfl⟩ := moved
  simp only [isInside, Bool.and_eq_true, decide_eq_true_eq] at inside
  simp only [spares, Bool.or_eq_true, Bool.and_eq_true, Nat.blt_eq, beq_iff_eq] at spared
  rw [move?, if_neg]
  rintro ⟨above', below', steps'⟩
  rcases spared with (after | before) | ⟨⟨even, even' | single⟩, odd⟩
  · omega
  · omega
  · rw [even] at steps'
    rw [even'] at steps
    rw [least] at odd
    omega
  · rw [even] at steps'
    rw [least] at odd
    omega

end Shift

/-- A shift that covers one code point. -/
def shiftAt (n : Nat) : Shift := ⟨n, n, 1, 0⟩

/-- What is moved to small letters is moved away from the capitals, and from the two that have no shift. -/
theorem lowerShifts_spare : (lowerShifts.all fun s =>
    s.isInside && (shiftAt 'Σ'.toNat :: shiftAt 'İ'.toNat :: lowerShifts).all s.spares) = true := by
  decide +kernel

/-! ## Settled characters -/

/-- A character is its own small form wherever it stands. -/
def Settled (c : Char) : Prop := ∀ before after, lowerOf before c after = [c]

theorem settled_of_ascii {c : Char} (small : c.toNat < 128) (same : c.toLower = c) : Settled c := by
  intro before after
  rw [lowerOf, if_pos small, same]

theorem toLower_of_unmoved {c : Char} (small : c.toNat < 128) (unmoved : ∀ t ∈ lowerShifts, t.move? c.toNat = none) :
    c.toLower = c := by
  have own := of_ascii (fun c => Shift.move? ⟨65, 90, 1, 32⟩ c.toNat = none → c.toLower = c) (by decide +kernel) small
  exact own (unmoved _ List.mem_cons_self)

/-- A character that no shift moves is settled, but for the two that have no shift. -/
theorem settled_of_unmoved {c : Char} (unmoved : ∀ t ∈ lowerShifts, t.move? c.toNat = none) (sigma : c ≠ 'Σ')
    (dotted : c ≠ 'İ') : Settled c := by
  by_cases small : c.toNat < 128
  · exact settled_of_ascii small (toLower_of_unmoved small unmoved)
  · intro before after
    rw [lowerOf, if_neg small, if_neg sigma, if_neg dotted, shift, List.findSome?_eq_none_iff.mpr unmoved]

theorem settled_of_moved {s : Shift} (member : s ∈ lowerShifts) {c n : Nat} (moved : s.move? c = some n) :
    Settled (Char.ofNat n) := by
  obtain ⟨inside, spared⟩ : s.isInside ∧ ∀ t ∈ shiftAt 'Σ'.toNat :: shiftAt 'İ'.toNat :: lowerShifts, s.spares t := by
    simpa using List.all_eq_true.mp lowerShifts_spare s member
  have range := Shift.between_of_move moved
  have valid : n.isValidChar := by
    simp only [Shift.isInside, Bool.and_eq_true, Bool.or_eq_true, decide_eq_true_eq] at inside
    rw [Nat.isValidChar]
    omega
  have code : (Char.ofNat n).toNat = n := by
    rw [Char.ofNat, dif_pos valid]
    rfl
  have other (m : Char) (listed : shiftAt m.toNat ∈ shiftAt 'Σ'.toNat :: shiftAt 'İ'.toNat :: lowerShifts) :
      Char.ofNat n ≠ m := by
    rintro rfl
    have missed := Shift.move?_spared inside (spared _ listed) moved
    simp [Shift.move?, shiftAt, code] at missed
  refine settled_of_unmoved (fun t inside' => ?_) (other 'Σ' (by simp)) (other 'İ' (by simp))
  rw [code]
  exact Shift.move?_spared inside (spared t (by simp [inside'])) moved

/-- The small form of a character is settled. -/
theorem settled_lowerOf (before after : List Char) (c : Char) : ∀ d ∈ lowerOf before c after, Settled d := by
  rw [lowerOf]
  split
  · next small =>
    have own := of_ascii (fun c => c.toLower.toNat < 128 ∧ c.toLower.toLower = c.toLower) (by decide +kernel) small
    simpa using settled_of_ascii own.1 own.2
  · split
    · split
      · simpa using settled_of_unmoved (by decide +kernel) (by decide) (by decide)
      · simpa using settled_of_unmoved (by decide +kernel) (by decide) (by decide)
    · next sigma =>
      split
      · have dot : Settled (Char.ofNat 0x307) := settled_of_unmoved (by decide +kernel) (by decide) (by decide)
        simpa using ⟨settled_of_ascii (by decide) (by decide), dot⟩
      · next dotted =>
        rw [List.forall_mem_singleton, shift]
        split
        · next n found =>
          obtain ⟨s, member, moved⟩ := List.exists_of_findSome?_eq_some found
          exact settled_of_moved member moved
        · next missed => exact settled_of_unmoved (List.findSome?_eq_none_iff.mp missed) sigma dotted

theorem settled_lowerFrom (before l : List Char) : ∀ d ∈ lowerFrom before l, Settled d := by
  induction l generalizing before with
  | nil => simp [lowerFrom]
  | cons c l ih => exact List.forall_mem_append.mpr ⟨settled_lowerOf before l c, ih (c :: before)⟩

theorem lowerFrom_of_settled (before : List Char) {l : List Char} (settled : ∀ c ∈ l, Settled c) :
    lowerFrom before l = l := by
  induction l generalizing before with
  | nil => rfl
  | cons c l ih =>
    obtain ⟨own, others⟩ := List.forall_mem_cons.mp settled
    rw [lowerFrom, own before l, ih (c :: before) others, List.singleton_append]

theorem lowerFrom_of_ascii (before : List Char) {l : List Char} (small : ∀ c ∈ l, c.toNat < 128) :
    lowerFrom before l = l.map Char.toLower := by
  induction l generalizing before with
  | nil => rfl
  | cons c l ih =>
    obtain ⟨own, others⟩ := List.forall_mem_cons.mp small
    rw [lowerFrom, lowerOf, if_pos own, ih (c :: before) others, List.singleton_append, List.map_cons]

theorem lower_of_ascii {l : List Char} (small : ∀ c ∈ l, c.toNat < 128) :
    lower (String.ofList l) = String.ofList (l.map Char.toLower) := by
  rw [lower, lowerChars, String.toList_ofList, lowerFrom_of_ascii [] small]

theorem map_toLower_capitalizeChars {l : List Char} (small : ∀ c ∈ l, c.toNat < 128) :
    (capitalizeChars l).map Char.toLower = l.map Char.toLower := by
  cases l with
  | nil => rfl
  | cons c l =>
    obtain ⟨own, others⟩ := List.forall_mem_cons.mp small
    have initial := of_ascii (fun c => c.toUpper.toLower = c.toLower) (by decide +kernel) own
    have settled : l.map (Char.toLower ∘ Char.toLower) = l.map Char.toLower := List.map_congr_left fun d member =>
      of_ascii (fun d => d.toLower.toLower = d.toLower) (by decide +kernel) (others d member)
    rw [capitalizeChars, initialOf, if_pos own, lowerFrom_of_ascii [c] others, List.singleton_append, List.map_cons,
      List.map_map, initial, List.map_cons, settled]

/-- A text in small letters is the same in small letters. -/
theorem lower_lower (s : String) : lower (lower s) = lower s := by
  rw [lower, lower, String.toList_ofList]
  exact congrArg String.ofList (lowerFrom_of_settled [] (settled_lowerFrom [] s.toList))

/-! ## Blanks -/

def blankCodes : List Nat :=
  [9, 10, 11, 12, 13, 28, 29, 30, 31, 32, 133, 160, 5760, 8192, 8193, 8194, 8195, 8196, 8197, 8198, 8199, 8200, 8201, 8202,
    8232, 8233, 8239, 8287, 12288]

theorem mem_blankCodes {c : Char} (blank : isBlank c = true) : c.toNat ∈ blankCodes := by
  simp only [isBlank, Bool.or_eq_true, Bool.and_eq_true, decide_eq_true_eq, beq_iff_eq] at blank
  simp only [blankCodes, List.mem_cons, List.not_mem_nil, or_false]
  omega

/-- Blanks have no other small form. -/
theorem settled_of_blank {c : Char} (blank : isBlank c = true) : Settled c := by
  have unmoved : ∀ n ∈ blankCodes, ∀ t ∈ lowerShifts, t.move? n = none := by decide +kernel
  refine settled_of_unmoved (unmoved _ (mem_blankCodes blank)) ?_ ?_
  · rintro rfl
    exact absurd blank (by decide)
  · rintro rfl
    exact absurd blank (by decide)

theorem stripChars_of_not_blank {l : List Char} (none : ∀ c ∈ l, isBlank c = false) : stripChars l = l := by
  have kept (l : List Char) (inside : ∀ c ∈ l, isBlank c = false) : l.dropWhile isBlank = l :=
    List.dropWhile_eq_self_iff.mpr fun some => by simp [inside _ (List.getElem_mem some)]
  rw [stripChars, dropRight, kept _ none, kept _ (by simpa using none), List.reverse_reverse]

theorem stripChars_append {lead : List Char} (blank : ∀ c ∈ lead, isBlank c = true) (l : List Char) :
    stripChars (lead ++ l) = stripChars l := by
  rw [stripChars, stripChars, List.dropWhile_append_of_pos blank]

/-- A text without blanks is stripped of nothing. -/
theorem strip_of_not_blank {s : String} (none : ∀ c ∈ s.toList, isBlank c = false) : strip s = s := by
  rw [strip, stripChars_of_not_blank none, String.ofList_toList]

end Converge.Text
