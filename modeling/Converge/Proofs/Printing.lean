import Converge.Document.Print
import Converge.Proofs.Sameness

/-!
# Printing and the numbers of shared parts

A document names the shared parts of a value in the order in which they are met again, so it does not
depend on their numbers (`dump_renumber`): the meetings on the way through the value are the same but for them
(`meetings_alike`), and so is the writing (`value_alike`).
-/

namespace Converge.Document

open Value

variable {f : Nat → Share} {l agains : List Nat}

mutual

theorem check_renumber (v : Value) : check (v.renumber f) = check v := by
  match v with
  | .null | .bool _ | .int _ | .float _ | .text _ | .bytes _ | .date .. | .moment .. | .again .. | .foreign => rfl
  | .list share items => exact checkAll_renumber items
  | .tuple items => exact checkAll_renumber items
  | .map share entries => exact checkEntries_renumber entries
  | .set share items => exact checkAll_renumber items

theorem checkAll_renumber (items : List Value) : checkAll (renumberAll f items) = checkAll items := by
  match items with
  | [] => rfl
  | v :: rest => rw [renumberAll, checkAll, checkAll, check_renumber v, checkAll_renumber rest]

theorem checkEntries_renumber (entries : List (Value × Value)) :
    checkEntries (renumberEntries f entries) = checkEntries entries := by
  match entries with
  | [] => rfl
  | (k, v) :: rest =>
    rw [renumberEntries, checkEntries, checkEntries, check_renumber k, check_renumber v, checkEntries_renumber rest]

end

/-! ## Meetings -/

namespace Meetings

/-- Meetings that are the same but for the numbers, those met being among some. -/
structure Alike (f : Nat → Share) (l : List Nat) (m m' : Meetings) : Prop where
  met : m'.met = m.met.filterMap f
  again : m'.again = m.again.filterMap f
  within : m.met ⊆ l
  known : m.again ⊆ m.met
  kept : ∀ n ∈ m.again, f n ≠ none

variable {m m' : Meetings}

theorem Alike.mono {more : List Nat} (alike : Alike f l m m') (within : l ⊆ more) : Alike f more m m' :=
  { alike with within := List.Subset.trans alike.within within }

theorem meet_new {n : Nat} (new : n ∉ m.met) : m.meet (some n) = (true, { m with met := n :: m.met }) := by
  simp [Meetings.meet, new]

theorem meet_known {n : Nat} (known : n ∈ m.met) :
    m.meet (some n) = (false, { m with again := if n ∈ m.again then m.again else m.again ++ [n] }) := by
  by_cases twice : n ∈ m.again <;> simp [Meetings.meet, known, twice]

/-- A part is new, or not, whatever its number. -/
theorem Alike.meet {share : Share} {later : List Nat} (alike : Alike f l m m')
    (keeps : Keeps f (l ++ (share.toList ++ later)) agains) :
    (m'.meet (share.bind f)).1 = (m.meet share).1 ∧
      Alike f (l ++ share.toList) (m.meet share).2 (m'.meet (share.bind f)).2 := by
  cases share with
  | none => exact ⟨rfl, alike.mono (List.subset_append_left _ _)⟩
  | some n =>
    have widen : m.met ⊆ l ++ (n :: later) := List.Subset.trans alike.within (List.subset_append_left _ _)
    have grown : n :: m.met ⊆ l ++ [n] := by
      simpa using List.Subset.trans alike.within (List.subset_append_left l [n])
    have known (x : Nat) (inside : x ∈ m.again) : x ∈ n :: m.met := List.mem_cons_of_mem n (alike.known inside)
    rw [Option.bind_some, Option.toList_some]
    cases kept : f n with
    | none =>
      -- A part without a new number is met for the only time.
      rw [meet_new fun inside => (keeps.not_mem kept).1 (alike.within inside)]
      refine ⟨rfl, ?_, alike.again, grown, known, alike.kept⟩
      rw [List.filterMap_cons_none kept]
      exact alike.met
    | some k =>
      have met : k ∈ m'.met ↔ n ∈ m.met := by
        simpa [alike.met] using keeps.contains_filterMap widen (by simp) kept
      have again : k ∈ m'.again ↔ n ∈ m.again := by
        simpa [alike.again] using keeps.contains_filterMap (List.Subset.trans alike.known widen) (by simp) kept
      by_cases inside : n ∈ m.met
      · rw [meet_known inside, meet_known (met.mpr inside)]
        by_cases twice : n ∈ m.again
        · rw [if_pos twice, if_pos (again.mpr twice)]
          exact ⟨rfl, alike.mono (List.subset_append_left _ _)⟩
        · rw [if_neg twice, if_neg (mt again.mp twice)]
          refine ⟨rfl, alike.met, ?_, (alike.mono (List.subset_append_left _ _)).within, ?_, ?_⟩
          · simp [alike.again, kept]
          · simpa [inside] using alike.known
          · simpa [kept, or_imp, forall_and] using alike.kept
      · rw [meet_new inside, meet_new (mt met.mp inside)]
        refine ⟨rfl, ?_, alike.again, grown, known, alike.kept⟩
        rw [List.filterMap_cons_some kept]
        exact congrArg _ alike.met

/-- A part that holds no others. -/
theorem Alike.met_alone {share : Share} (alike : Alike f l m m') (keeps : Keeps f (l ++ share.toList) agains) :
    Alike f (l ++ share.toList) (m.meet share).2 (m'.meet (share.bind f)).2 := by
  rw [← List.append_nil share.toList] at keeps
  exact (alike.meet keeps).2

end Meetings

open Meetings (Alike)

mutual

/-- The meetings on the way through a value do not depend on the numbers. -/
theorem meetings_alike {l : List Nat} {m m' : Meetings} (v : Value) (keeps : Keeps f (l ++ v.shares) v.agains)
    (alike : Alike f l m m') : Alike f (l ++ v.shares) (meetings m v) (meetings m' (v.renumber f)) := by
  match v with
  | .null | .bool _ | .int _ | .float _ | .text _ | .bytes _ | .foreign =>
    exact alike.mono (List.subset_append_left _ _)
  | .date share d => exact alike.met_alone keeps
  | .moment share m => exact alike.met_alone keeps
  | .again n shape =>
    obtain ⟨k, kept⟩ := Option.ne_none_iff_exists'.mp (keeps.again n (List.mem_singleton_self n))
    have met : Alike f _ (m.meet (some n)).2 (m'.meet ((some n).bind f)).2 := alike.met_alone keeps
    rw [Option.bind_some, kept] at met
    rw [renumber, kept]
    exact met
  | .list share items =>
    obtain ⟨same, met⟩ := alike.meet keeps
    rw [shares, ← List.append_assoc] at keeps ⊢
    simp only [renumber, meetings, same]
    split
    · exact meetingsAll_alike items keeps met
    · exact met.mono (List.subset_append_left _ _)
  | .tuple items => exact meetingsAll_alike items keeps alike
  | .map share entries =>
    obtain ⟨same, met⟩ := alike.meet keeps
    rw [shares, ← List.append_assoc] at keeps ⊢
    simp only [renumber, meetings, same]
    split
    · exact meetingsEntries_alike entries keeps met
    · exact met.mono (List.subset_append_left _ _)
  | .set share items =>
    obtain ⟨same, met⟩ := alike.meet keeps
    rw [shares, ← List.append_assoc] at keeps ⊢
    simp only [renumber, meetings, same]
    split
    · exact meetingsAll_alike items keeps met
    · exact met.mono (List.subset_append_left _ _)

theorem meetingsAll_alike {l : List Nat} {m m' : Meetings} (items : List Value)
    (keeps : Keeps f (l ++ sharesOfAll items) (againsOfAll items)) (alike : Alike f l m m') :
    Alike f (l ++ sharesOfAll items) (meetingsAll m items) (meetingsAll m' (renumberAll f items)) := by
  match items with
  | [] => exact alike.mono (List.subset_append_left _ _)
  | v :: rest =>
    rw [sharesOfAll, ← List.append_assoc]
    exact meetingsAll_alike rest keeps.later (meetings_alike v keeps.left alike)

theorem meetingsEntries_alike {l : List Nat} {m m' : Meetings} (entries : List (Value × Value))
    (keeps : Keeps f (l ++ sharesOfEntries entries) (againsOfEntries entries)) (alike : Alike f l m m') :
    Alike f (l ++ sharesOfEntries entries) (meetingsEntries m entries)
      (meetingsEntries m' (renumberEntries f entries)) := by
  match entries with
  | [] => exact alike.mono (List.subset_append_left _ _)
  | (k, v) :: rest =>
    rw [sharesOfEntries, ← List.append_assoc, ← List.append_assoc]
    have value := meetings_alike v keeps.left.later (meetings_alike k keeps.left.left alike)
    rw [List.append_assoc l] at value ⊢
    exact meetingsEntries_alike rest keeps.later value

end

/-! ## Writing -/

namespace Writing

/-- Writings that are the same but for the numbers of parts, which are among some; every part with a name keeps a
number. -/
structure Alike (f : Nat → Share) (l : List Nat) (w w' : Writing) : Prop where
  sheet : w'.sheet = w.sheet
  named : w'.named = w.named.filterMap f
  placed : w'.placed = w.placed.filterMap f
  inside : w.named ⊆ l
  within : w.placed ⊆ l
  kept : ∀ n ∈ w.named, f n ≠ none

variable {w w' : Writing}

theorem Alike.on (alike : Alike f l w w') (g : Sheet → Sheet) : Alike f l (w.on g) (w'.on g) :=
  { alike with sheet := congrArg g alike.sheet }

theorem idxOf?_filterMap {named : List Nat} {n k : Nat} (keeps : Keeps f l agains) (inside : named ⊆ l)
    (all : ∀ m ∈ named, f m ≠ none) (member : n ∈ l) (kept : f n = some k) :
    (named.filterMap f).idxOf? k = named.idxOf? n := by
  induction named with
  | nil => rfl
  | cons m named ih =>
    obtain ⟨i, same⟩ := Option.ne_none_iff_exists'.mp (all m List.mem_cons_self)
    have later := ih (List.Subset.trans (List.subset_cons_self _ _) inside)
      fun x there => all x (List.mem_cons_of_mem m there)
    have equal : (i == k) = (m == n) := by
      rw [Bool.eq_iff_iff, beq_iff_eq, beq_iff_eq]
      constructor
      · rintro rfl
        exact keeps.apart m (inside List.mem_cons_self) n member (same.trans kept.symm) (by simp [kept])
      · rintro rfl
        exact Option.some.inj (same.symm.trans kept)
    rw [List.filterMap_cons_some same, List.idxOf?_cons, List.idxOf?_cons, later, equal]

theorem Alike.nameOf? {share : Share} (alike : Alike f l w w') (keeps : Keeps f l agains) (member : share.toList ⊆ l) :
    w'.nameOf? (share.bind f) = w.nameOf? share := by
  cases share with
  | none => rfl
  | some n =>
    cases kept : f n with
    | none =>
      have nameless : w.named.idxOf? n = none := List.idxOf?_eq_none_iff.mpr fun inside => alike.kept n inside kept
      simp [Writing.nameOf?, kept, nameless]
    | some k =>
      rw [Option.bind_some, kept, Writing.nameOf?, Writing.nameOf?, Option.bind_some, Option.bind_some, alike.named,
        idxOf?_filterMap keeps alike.inside alike.kept (member (by simp)) kept]

theorem Alike.isPlaced {share : Share} (alike : Alike f l w w') (keeps : Keeps f l agains) (member : share.toList ⊆ l)
    (named : (w.nameOf? share).isSome) : w'.isPlaced (share.bind f) = w.isPlaced share := by
  cases share with
  | none => rfl
  | some n =>
    have inside : n ∈ w.named := by
      by_contra absent
      rw [Writing.nameOf?, Option.bind_some, List.idxOf?_eq_none_iff.mpr absent] at named
      cases named
    obtain ⟨k, kept⟩ := Option.ne_none_iff_exists'.mp (alike.kept n inside)
    rw [Option.bind_some, kept, Writing.isPlaced, Writing.isPlaced, Option.any_some, Option.any_some, alike.placed,
      keeps.contains_filterMap alike.within (member (by simp)) kept]

/-- A part is written the same, where its content is. -/
theorem Alike.part {share : Share} {content content' : Writing → Writing} (alike : Alike f l w w')
    (keeps : Keeps f l agains) (member : share.toList ⊆ l)
    (same : ∀ {u u' : Writing}, Alike f l u u' → Alike f l (content u) (content' u')) :
    Alike f l (w.part share content) (w'.part (share.bind f) content') := by
  rw [Writing.part, Writing.part, alike.nameOf? keeps member]
  cases named : w.nameOf? share with
  | none => exact same alike
  | some name =>
    dsimp only
    rw [alike.isPlaced keeps member (by simp [named])]
    split
    · exact alike.on _
    · have signed := alike.on (·.sign ("&" ++ name))
      refine same ⟨signed.sheet, signed.named, ?_, signed.inside, List.append_subset.mpr ⟨member, alike.within⟩,
        alike.kept⟩
      rw [alike.placed, toList_bind_append]

theorem Alike.ite {c : Prop} [Decidable c] {u u' : Writing} (yes : Alike f l w w') (no : Alike f l u u') :
    Alike f l (if c then w else u) (if c then w' else u') := by
  split
  · exact yes
  · exact no

theorem Alike.scalar (alike : Alike f l w w') (indent : Option Nat) (position : Position) (x : Written) :
    Alike f l (w.scalar indent position x) (w'.scalar indent position x) := by
  have tagged (c : Prop) [Decidable c] : Alike f l (if c then w else w.on (·.sign x.sign))
    (if c then w' else w'.on (·.sign x.sign)) := .ite alike (alike.on _)
  unfold Writing.scalar
  exact .ite (((tagged _).on _).on _) ((tagged _).on _)

/-- Whether a name and a text are short enough does not depend on the number of the part. -/
theorem Alike.isShort {share : Share} (alike : Alike f l w w') (keeps : Keeps f l agains) (member : share.toList ⊆ l)
    (x : Written) :
    (match w'.nameOf? (share.bind f), some x with
      | some name, some x => w'.isPlaced (share.bind f) || isShortKey x name.length
      | none, some x => isShortKey x 0
      | _, none => false) =
    match w.nameOf? share, some x with
      | some name, some x => w.isPlaced share || isShortKey x name.length
      | none, some x => isShortKey x 0
      | _, none => false := by
  rw [alike.nameOf? keeps member]
  cases named : w.nameOf? share with
  | none => rfl
  | some name => rw [alike.isPlaced keeps member (by simp [named])]

theorem Alike.isSimpleKey {v : Value} (alike : Alike f l w w') (keeps : Keeps f l agains) (member : v.shares ⊆ l) :
    w'.isSimpleKey (v.renumber f) = w.isSimpleKey v := by
  cases v with
  | tuple items => exact renumberAll_isEmpty items
  | date share d => exact alike.isShort keeps member _
  | moment share m => exact alike.isShort keeps member _
  | _ => rfl

theorem Alike.itemColumn (alike : Alike f l w w') (indent : Option Nat) (position : Position) :
    w'.itemColumn indent position = w.itemColumn indent position := by
  unfold Writing.itemColumn
  rw [alike.sheet]

mutual

/-- A value is written the same, whatever the numbers of its parts. -/
theorem value_alike {w w' : Writing} (indent : Option Nat) (position : Position) (v : Value)
    (keeps : Keeps f l agains) (member : v.shares ⊆ l) (inside : v.agains ⊆ agains) (alike : Alike f l w w') :
    Alike f l (value indent position v w) (value indent position (v.renumber f) w') := by
  match v with
  | .null | .bool _ | .int _ | .float _ | .text _ | .bytes _ => exact alike.scalar _ _ _
  | .foreign => exact alike
  | .date share d => exact alike.part keeps member fun same => same.scalar _ _ _
  | .moment share m => exact alike.part keeps member fun same => same.scalar _ _ _
  | .again n shape =>
    obtain ⟨k, kept⟩ := Option.ne_none_iff_exists'.mp (keeps.again n (inside (List.mem_singleton_self n)))
    have same : Alike f l (w.part (some n) id) (w'.part ((some n).bind f) id) :=
      alike.part keeps member fun same => same
    rw [Option.bind_some, kept] at same
    rw [renumber, kept]
    exact same
  | .list share items =>
    obtain ⟨own, within⟩ := List.append_subset.mp member
    simp only [renumber, value, renumberAll_isEmpty]
    refine alike.part keeps own fun same => .ite (same.on _) ?_
    rw [same.itemColumn]
    exact elements_alike _ items keeps within inside same
  | .tuple items =>
    simp only [renumber, value, renumberAll_isEmpty]
    rw [alike.itemColumn]
    exact .ite (alike.on _) (elements_alike _ items keeps member inside alike)
  | .map share entries =>
    obtain ⟨own, within⟩ := List.append_subset.mp member
    simp only [renumber, value, renumberEntries_isEmpty]
    exact alike.part keeps own fun same => .ite (same.on _) (pairs_alike _ entries keeps within inside same)
  | .set share items =>
    obtain ⟨own, within⟩ := List.append_subset.mp member
    simp only [renumber, value, renumberAll_isEmpty]
    exact alike.part keeps own fun same =>
      .ite ((same.on _).on _) (members_alike _ items keeps within inside (same.on _))

theorem elements_alike {w w' : Writing} (column : Nat) (items : List Value) (keeps : Keeps f l agains)
    (member : sharesOfAll items ⊆ l) (inside : againsOfAll items ⊆ agains) (alike : Alike f l w w') :
    Alike f l (elements column items w) (elements column (renumberAll f items) w') := by
  match items with
  | [] => exact alike
  | v :: rest =>
    obtain ⟨first, later⟩ := List.append_subset.mp member
    obtain ⟨first', later'⟩ := List.append_subset.mp inside
    exact elements_alike column rest keeps later later' (value_alike _ _ v keeps first first' (alike.on _))

theorem pairs_alike {w w' : Writing} (column : Nat) (entries : List (Value × Value)) (keeps : Keeps f l agains)
    (member : sharesOfEntries entries ⊆ l) (inside : againsOfEntries entries ⊆ agains) (alike : Alike f l w w') :
    Alike f l (pairs column entries w) (pairs column (renumberEntries f entries) w') := by
  match entries with
  | [] => exact alike
  | (k, v) :: rest =>
    obtain ⟨both, later⟩ := List.append_subset.mp member
    obtain ⟨both', later'⟩ := List.append_subset.mp inside
    obtain ⟨key, value⟩ := List.append_subset.mp both
    obtain ⟨key', value'⟩ := List.append_subset.mp both'
    have begun := alike.on (·.indentTo column)
    refine pairs_alike column rest keeps later later' ?_
    rw [begun.isSimpleKey keeps key]
    exact .ite (value_alike _ _ v keeps value value' ((value_alike _ _ k keeps key key' begun).on _))
      (value_alike _ _ v keeps value value' ((value_alike _ _ k keeps key key' (begun.on _)).on _))

theorem members_alike {w w' : Writing} (column : Nat) (items : List Value) (keeps : Keeps f l agains)
    (member : sharesOfAll items ⊆ l) (inside : againsOfAll items ⊆ agains) (alike : Alike f l w w') :
    Alike f l (members column items w) (members column (renumberAll f items) w') := by
  match items with
  | [] => exact alike
  | k :: rest =>
    obtain ⟨key, later⟩ := List.append_subset.mp member
    obtain ⟨key', later'⟩ := List.append_subset.mp inside
    have begun := alike.on (·.indentTo column)
    refine members_alike column rest keeps later later' (.scalar ?_ _ _ _)
    rw [begun.isSimpleKey keeps key]
    exact .ite ((value_alike _ _ k keeps key key' begun).on _)
      ((value_alike _ _ k keeps key key' (begun.on _)).on _)

end

end Writing

end Converge.Document
