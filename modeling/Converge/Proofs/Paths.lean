import Converge.Host.FileSystem

/-!
# Paths in their normal form

An absolute path stays absolute in its normal form (`isAbsolute_normal`), at the end of which only the root has
slashes (`withoutEndSlashes_normal`), and it always leads on by a step (`steps_ne_nil`).
-/

namespace Converge

namespace Path

/-! ## Parts -/

theorem exists_split (l : List Char) : ∃ part parts, split l = part :: parts := by
  cases l with
  | nil => exact ⟨[], [], rfl⟩
  | cons c rest =>
    rw [split]
    split
    · exact ⟨_, _, rfl⟩
    · split
      · exact ⟨_, _, rfl⟩
      · exact ⟨_, _, rfl⟩

theorem split_slash (rest : List Char) : split ('/' :: rest) = [] :: split rest := by
  obtain ⟨part, parts, same⟩ := exists_split rest
  simp [split, same]

/-- No part of a path has a slash in it. -/
theorem not_slash_of_mem_split {l p : List Char} (member : p ∈ split l) : '/' ∉ p := by
  induction l generalizing p with
  | nil => simp_all [split]
  | cons c rest ih =>
    obtain ⟨part, parts, same⟩ := exists_split rest
    rw [same] at ih
    by_cases slash : c = '/'
    · rw [slash, split_slash, same] at member
      rcases List.mem_cons.mp member with rfl | later
      · exact List.not_mem_nil
      · exact ih later
    · have together : split (c :: rest) = (c :: part) :: parts := by simp [split, same, slash]
      rw [together] at member
      rcases List.mem_cons.mp member with rfl | later
      · simp [Ne.symm slash, ih List.mem_cons_self]
      · exact ih (List.mem_cons_of_mem _ later)

theorem split_of_not_slash {l : List Char} (inside : '/' ∉ l) : split l = [l] := by
  induction l with
  | nil => rfl
  | cons c rest ih =>
    rw [List.mem_cons, not_or] at inside
    simp [split, ih inside.2, Ne.symm inside.1]

/-! ## Absolute paths -/

theorem isAbsolute_iff {path : String} : isAbsolute path = true ↔ ∃ rest, path.toList = '/' :: rest := by
  rw [isAbsolute]
  cases path.toList with
  | nil => simp
  | cons c rest => simp

/-- The root stands before the parts of an absolute path. -/
theorem root_of_isAbsolute {path : String} (absolute : isAbsolute path = true) :
    root path = "/" ∨ root path = "//" := by
  obtain ⟨rest, same⟩ := isAbsolute_iff.mp absolute
  rw [root, same]
  split
  · exact .inl rfl
  · exact .inr rfl
  · exact .inl rfl
  · next no => exact absurd rfl (no rest)

theorem normal_of_isAbsolute {path : String} (absolute : isAbsolute path = true) :
    normal path = root path ++ "/".intercalate (parts path) := by
  rw [normal]
  refine if_neg fun empty => ?_
  have := congrArg String.toList empty
  rcases root_of_isAbsolute absolute with same | same <;> simp [same] at this

theorem isAbsolute_normal {path : String} (absolute : isAbsolute path = true) : isAbsolute (normal path) = true := by
  rw [isAbsolute_iff, normal_of_isAbsolute absolute]
  rcases root_of_isAbsolute absolute with same | same <;> simp [same]

theorem getLast?_intercalate {sep l : List Char} {ls : List (List Char)} (last : ls.getLast? = some l)
    (filled : l ≠ []) : (sep.intercalate ls).getLast? = l.getLast? := by
  induction ls with
  | nil => cases last
  | cons first rest ih =>
    cases rest with
    | nil =>
      have same : first = l := by simpa using last
      rw [List.intercalate_singleton, same]
    | cons second rest =>
      rw [List.getLast?_cons_cons] at last
      rw [List.intercalate_cons_cons, List.getLast?_append, ih last, List.getLast?_eq_some_getLast filled,
        Option.some_or]

/-- The parts of an absolute path in its normal form are followed by no slash. -/
theorem getLast?_normal {path : String} (absolute : isAbsolute path = true) (filled : parts path ≠ []) :
    (normal path).toList.getLast? ≠ some '/' := by
  obtain ⟨before, last, snoc⟩ := List.eq_nil_or_concat (parts path) |>.resolve_left filled
  have member : last ∈ parts path := by simp [snoc]
  obtain ⟨part, inside, rfl⟩ := List.mem_map.mp member
  obtain ⟨inside, kept⟩ := List.mem_filter.mp inside
  have nonempty : part ≠ [] := by simp_all
  have ends : ("/".intercalate (parts path)).toList.getLast? = part.getLast? := by
    rw [String.toList_intercalate]
    exact getLast?_intercalate (by simp [snoc]) nonempty
  rw [normal_of_isAbsolute absolute, String.toList_append, List.getLast?_append, ends,
    List.getLast?_eq_some_getLast nonempty, Option.some_or]
  intro same
  exact not_slash_of_mem_split inside (Option.some.inj same ▸ List.getLast_mem nonempty)

/-- There are no slashes at the end of an absolute path in its normal form, but for those of the root. -/
theorem withoutEndSlashes_normal {path : String} (absolute : isAbsolute path = true) :
    withoutEndSlashes (normal path) = normal path ∨ normal path = "//" ∧ withoutEndSlashes (normal path) = "/" := by
  by_cases filled : parts path = []
  · rw [normal_of_isAbsolute absolute, filled]
    rcases root_of_isAbsolute absolute with same | same
    · rw [same]
      exact .inl (by decide)
    · rw [same]
      exact .inr (by decide)
  · have last := getLast?_normal absolute filled
    obtain ⟨rest, begins⟩ := isAbsolute_iff.mp (isAbsolute_normal absolute)
    obtain ⟨before, c, snoc⟩ := List.eq_nil_or_concat (normal path).toList |>.resolve_left (by simp [begins])
    rw [List.concat_eq_append] at snoc
    have ordinary : (c == '/') = false := by simpa [snoc] using last
    have kept : ((normal path).toList.reverse.dropWhile (· == '/')).reverse = (normal path).toList := by
      simp [snoc, ordinary]
    refine .inl ?_
    rw [withoutEndSlashes, kept, if_neg (by simp [begins]), String.ofList_toList]

/-! ## Paths of one name -/

theorem isAbsolute_name (name : String) : isAbsolute ("/" ++ name) = true :=
  isAbsolute_iff.mpr ⟨name.toList, String.toList_append⟩

variable {name : String}

theorem split_name (inside : '/' ∉ name.toList) : split ("/" ++ name).toList = [[], name.toList] := by
  have begins : ("/" ++ name).toList = '/' :: name.toList := String.toList_append
  rw [begins, split_slash, split_of_not_slash inside]

theorem parts_name (inside : '/' ∉ name.toList) (filled : name ≠ "") (other : name ≠ ".") :
    parts ("/" ++ name) = [name] := by
  have filled : name.toList ≠ [] := fun same => filled (String.toList_inj.mp same)
  have other : name.toList ≠ ['.'] := fun same => other (String.toList_inj.mp same)
  rw [parts, split_name inside, List.filter_cons_of_neg (by simp), List.filter_cons_of_pos (by simp [filled, other])]
  simp

theorem normal_name (inside : '/' ∉ name.toList) (filled : name ≠ "") (other : name ≠ ".") :
    normal ("/" ++ name) = "/" ++ name := by
  have begins : ("/" ++ name).toList = '/' :: name.toList := String.toList_append
  have lone : root ("/" ++ name) = "/" := by
    cases chars : name.toList with
    | nil => exact absurd (String.toList_inj.mp chars) filled
    | cons c rest =>
      have slash : c ≠ '/' := by
        rintro rfl
        simp [chars] at inside
      rw [root, begins, chars]
      split <;> simp_all
  rw [normal_of_isAbsolute (isAbsolute_name name), lone, parts_name inside filled other, String.intercalate_singleton]

theorem not_isAbsolute_of_not_slash (inside : '/' ∉ name.toList) : isAbsolute name = false := by
  rw [isAbsolute, beq_eq_false_iff_ne]
  exact fun begins => inside (List.mem_of_mem_head? begins)

end Path

theorem FileSystem.steps_name {name : String} (inside : '/' ∉ name.toList) (filled : name ≠ "") (other : name ≠ ".") :
    steps ("/" ++ name) = [name] := by
  have ends : Path.ending ("/" ++ name) = [] := by
    rw [Path.ending, Path.split_name inside]
    split
    · next same => exact absurd (String.toList_inj.mp (List.cons.inj same).1) filled
    · next same => exact absurd (String.toList_inj.mp (List.cons.inj same).1) other
    · rfl
  rw [steps, Path.parts_name inside filled other, ends, List.append_nil]

theorem FileSystem.steps_of_not_slash {name : String} (inside : '/' ∉ name.toList) (filled : name ≠ "")
    (other : name ≠ ".") : steps name = [name] := by
  have filled : name.toList ≠ [] := fun same => filled (String.toList_inj.mp same)
  have other : name.toList ≠ ['.'] := fun same => other (String.toList_inj.mp same)
  rw [steps, Path.parts, Path.ending, Path.split_of_not_slash inside]
  simp [filled, other]

/-- An absolute path leads somewhere by at least one step. -/
theorem FileSystem.steps_ne_nil {path : String} (absolute : Path.isAbsolute path = true) : steps path ≠ [] := by
  obtain ⟨rest, same⟩ := Path.isAbsolute_iff.mp absolute
  have ends : (Path.split path.toList).reverse = (Path.split rest).reverse ++ [[]] := by
    rw [same, Path.split_slash, List.reverse_cons]
  obtain ⟨part, parts, parted⟩ := Path.exists_split rest
  obtain ⟨last, before, reversed⟩ : ∃ last before, (Path.split rest).reverse = last :: before :=
    List.exists_cons_of_ne_nil (by simp [parted])
  have turned : ∃ other others, before ++ [[]] = other :: others := List.exists_cons_of_ne_nil (by simp)
  obtain ⟨other, others, more⟩ := turned
  rw [reversed, List.cons_append, more] at ends
  intro none
  obtain ⟨noParts, noEnding⟩ := List.append_eq_nil_iff.mp none
  have skipped : last = [] ∨ last = ['.'] := by
    have member : last ∈ Path.split path.toList := List.mem_reverse.mp (ends ▸ List.mem_cons_self)
    rw [Path.parts, List.map_eq_nil_iff, List.filter_eq_nil_iff] at noParts
    by_cases empty : last = []
    · exact .inl empty
    · exact .inr (by simpa [empty] using noParts last member)
  rw [Path.ending, ends] at noEnding
  rcases skipped with rfl | rfl <;> cases noEnding

end Converge
