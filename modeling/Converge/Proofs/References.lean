import Converge.Proofs.PlainText
import Converge.Proofs.SmallLetters

/-!
# Written references

A reference is written as its type, in letters of any case, before its name in brackets, with blanks around. No
bracket stands in a type and nothing but blanks follows the last one, so that the name is all that stands between the
first opening and the last closing bracket, whatever it holds (`split_eq_some_iff`). A text is read as the one reference
that it writes, if it writes one (`parse_ok_iff`); so references have forms of their own (`parse_display`).
-/

namespace Converge.Ref

open Text

/-! ## The texts of types -/

theorem not_blank_of_isTypeChar {c : Char} (part : isTypeChar c = true) : isBlank c = false := by
  have none : ∀ n ∈ blankCodes, isTypeChar (Char.ofNat n) = false := by decide +kernel
  by_contra blank
  have own := none c.toNat (mem_blankCodes ((Bool.not_eq_false _).mp blank))
  rw [Char.ofNat_toNat, part] at own
  cases own

theorem isTypeChar_of_isTypeStart {c : Char} (first : isTypeStart c = true) : isTypeChar c = true := by
  have small : c.toNat < 128 := by
    delta isTypeStart Char.isAlpha Char.isUpper Char.isLower at first
    simp only [Bool.or_eq_true, Bool.and_eq_true, decide_eq_true_eq, ge_iff_le, UInt32.le_iff_toNat_le] at first
    change (65 ≤ c.toNat ∧ c.toNat ≤ 90) ∨ (97 ≤ c.toNat ∧ c.toNat ≤ 122) at first
    omega
  rw [isTypeStart] at first
  simp [isTypeChar, isWordChar, small, Char.isAlphanum, first]

theorem isTypeChar_of_ascii {c : Char} (small : c.toNat < 128) :
    isTypeChar c = (c.isAlphanum || c == '_' || c == ':') := by
  rw [isTypeChar, isWordChar, if_pos small]

/-- Characters are one of a class, and others of a class after it. -/
inductive Begins (first other : Char → Bool) : List Char → Prop
  | intro {c : Char} {rest : List Char} (begins : first c = true) (others : ∀ d ∈ rest, other d = true) :
      Begins first other (c :: rest)

theorem Begins.imp {first other first' other' : Char → Bool} {l : List Char} (begins : Begins first other l)
    (initial : ∀ c ∈ l, first c = true → first' c = true) (further : ∀ c ∈ l, other c = true → other' c = true) :
    Begins first' other' l := by
  cases begins with
  | intro begins others =>
    obtain ⟨own, rest⟩ := List.forall_mem_cons.mp initial
    exact .intro (own begins) fun d member => further d (List.mem_cons_of_mem _ member) (others d member)

/-- Characters are the text of a type: a letter, and letters, digits, underscores and colons after it. -/
abbrev IsTypeText : List Char → Prop := Begins isTypeStart isTypeChar

/-- Characters are the text of a type, none of which is outside ASCII. -/
abbrev IsAsciiType : List Char → Prop := Begins Char.isAlpha fun c => c.isAlphanum || c == '_' || c == ':'

/-- Characters are the text of a type in small letters, none of which is outside ASCII. -/
abbrev IsSmallType : List Char → Prop := Begins Char.isLower fun c => c.isLower || c.isDigit || c == '_' || c == ':'

variable {type : List Char}

theorem IsTypeText.all (text : IsTypeText type) : ∀ c ∈ type, isTypeChar c = true := by
  cases text with
  | intro first others => exact List.forall_mem_cons.mpr ⟨isTypeChar_of_isTypeStart first, others⟩

/-- The text of a type is kept in small letters, as nothing is stripped from it. -/
theorem IsTypeText.normalType (text : IsTypeText type) :
    normalType (String.ofList type) = lower (String.ofList type) := by
  rw [Ref.normalType, strip_of_not_blank]
  intro c member
  rw [String.toList_ofList] at member
  exact not_blank_of_isTypeChar (text.all c member)

theorem isAsciiType_iff (small : ∀ c ∈ type, c.toNat < 128) : IsAsciiType type ↔ IsTypeText type := by
  constructor
  · intro text
    exact text.imp (fun _ _ => id) fun c member other => (isTypeChar_of_ascii (small c member)).trans other
  · intro text
    exact text.imp (fun _ _ => id) fun c member other => (isTypeChar_of_ascii (small c member)).symm.trans other

theorem IsSmallType.all (text : IsSmallType type) :
    ∀ c ∈ type, (c.isLower || c.isDigit || c == '_' || c == ':') = true := by
  cases text with
  | intro first others => exact List.forall_mem_cons.mpr ⟨by simp [first], others⟩

theorem IsSmallType.ascii (text : IsSmallType type) : ∀ c ∈ type, c.toNat < 128 := by
  intro c member
  have part := text.all c member
  simp only [Bool.or_eq_true, beq_iff_eq] at part
  rcases part with ((letter | digit) | rfl) | rfl
  · have last : c.val ≤ 'z'.val := of_decide_eq_true (Bool.and_eq_true_iff.mp letter).2
    exact (UInt32.le_iff_toNat_le.mp last).trans_lt (by decide)
  · have last : c.val ≤ '9'.val := of_decide_eq_true (Bool.and_eq_true_iff.mp digit).2
    exact (UInt32.le_iff_toNat_le.mp last).trans_lt (by decide)
  · decide
  · decide

theorem IsSmallType.map_toLower (text : IsSmallType type) : type.map Char.toLower = type := by
  have same : ∀ c ∈ type, c.toLower = c := fun c member =>
    of_ascii (fun c => (c.isLower || c.isDigit || c == '_' || c == ':') = true → c.toLower = c) (by decide +kernel)
      (text.ascii c member) (text.all c member)
  rw [List.map_congr_left same, List.map_id']

/-- Letters that are those of a type when they are small are the text of a type. -/
theorem IsSmallType.respelled {letters : List Char} (text : IsSmallType (letters.map Char.toLower)) :
    (∀ c ∈ letters, c.toNat < 128) ∧ IsTypeText letters := by
  have small : ∀ c ∈ letters, c.toNat < 128 := fun c member =>
    toNat_lt_of_toLower (text.ascii _ (List.mem_map_of_mem member))
  refine ⟨small, (isAsciiType_iff small).mp ?_⟩
  cases letters with
  | nil => cases text
  | cons c rest =>
    cases text with
    | intro first others =>
      obtain ⟨own, small⟩ := List.forall_mem_cons.mp small
      refine .intro (of_ascii (fun c => c.toLower.isLower = true → c.isAlpha = true) (by decide +kernel) own first) ?_
      intro d member
      exact of_ascii (fun d => (d.toLower.isLower || d.toLower.isDigit || d.toLower == '_' || d.toLower == ':') = true →
        (d.isAlphanum || d == '_' || d == ':') = true) (by decide +kernel) (small d member)
        (others _ (List.mem_map_of_mem member))

/-! ## Parts of what is written -/

/-- Characters are blanks, a type of some form, something in brackets, and blanks. -/
structure Written (form : List Char → Prop) (s lead type name trail : List Char) : Prop where
  whole : s = lead ++ (type ++ '[' :: (name ++ ']' :: trail))
  lead : ∀ c ∈ lead, isBlank c = true
  type : form type
  name : name ≠ []
  trail : ∀ c ∈ trail, isBlank c = true

theorem Written.mem_of_type {form : List Char → Prop} {s lead type name trail : List Char}
    (written : Written form s lead type name trail) {c : Char} (member : c ∈ type) : c ∈ s := by
  simp [written.whole, member]

theorem dropClosing_eq_some_iff {s name : List Char} :
    dropClosing s = some name ↔ ∃ trail, (∀ c ∈ trail, isBlank c = true) ∧ s = name ++ ']' :: trail := by
  rw [dropClosing, dropRight, List.reverse_reverse]
  constructor
  · intro found
    split at found
    · next rest left =>
      cases found
      refine ⟨(s.reverse.takeWhile isBlank).reverse, ?_, ?_⟩
      · intro c member
        exact List.mem_takeWhile_imp (List.mem_reverse.mp member)
      · have parts := List.takeWhile_append_dropWhile (p := isBlank) (l := s.reverse)
        rw [left] at parts
        simpa using (congrArg List.reverse parts).symm
    · cases found
  · rintro ⟨trail, blank, rfl⟩
    have left : (name ++ ']' :: trail).reverse.dropWhile isBlank = ']' :: name.reverse := by
      rw [List.reverse_append, List.reverse_cons, List.append_assoc,
        List.dropWhile_append_of_pos (by simpa using blank)]
      rfl
    rw [left]
    simp

/-- What a text is split into are the parts that it is written of, and no others. -/
theorem split_eq_some_iff {s type name : List Char} :
    split s = some (type, name) ↔ ∃ lead trail, Written IsTypeText s lead type name trail := by
  constructor
  · intro found
    have parts := List.takeWhile_append_dropWhile (p := isBlank) (l := s)
    rw [split] at found
    split at found
    · next c rest left =>
      rw [left] at parts
      split at found
      · next first =>
        have after := List.takeWhile_append_dropWhile (p := isTypeChar) (l := rest)
        split at found
        · next inner opened =>
          rw [opened] at after
          split at found
          · next n ns closed =>
            obtain ⟨trail, blank, rfl⟩ := dropClosing_eq_some_iff.mp closed
            cases found
            refine ⟨s.takeWhile isBlank, trail, ?_, fun d => List.mem_takeWhile_imp,
              .intro first fun d => List.mem_takeWhile_imp, by simp, blank⟩
            rw [List.cons_append, after, parts]
          · cases found
        · cases found
      · cases found
    · cases found
  · rintro ⟨lead, trail, rfl, blank, ⟨first, others⟩, some, blank'⟩
    obtain ⟨n, ns, rfl⟩ := List.exists_cons_of_ne_nil some
    next c rest =>
    have solid : isBlank c = false := not_blank_of_isTypeChar (isTypeChar_of_isTypeStart first)
    have bracket : isTypeChar '[' = false := by decide
    have closed : dropClosing (n :: ns ++ ']' :: trail) = .some (n :: ns) :=
      dropClosing_eq_some_iff.mpr ⟨trail, blank', rfl⟩
    simp only [split, List.dropWhile_append_of_pos blank, List.cons_append, List.dropWhile_cons, solid,
      List.dropWhile_append_of_pos others, List.takeWhile_append_of_pos others, List.takeWhile_cons, bracket, first,
      Bool.false_eq_true, if_false, if_true, List.append_nil]
    rw [List.cons_append] at closed
    rw [closed]

/-! ## Reading -/

/-- A text is read as the reference that it writes: the type in small letters, and what stands in the brackets. -/
theorem parse_ok_iff {text : String} {r : Ref} : parse text = .ok r ↔ ∃ lead type trail,
    Written IsTypeText text.toList lead type r.name.toList trail ∧ lower (String.ofList type) = r.type := by
  constructor
  · intro parsed
    rw [parse] at parsed
    split at parsed
    · cases parsed
    · next type name found =>
      obtain ⟨lead, trail, written⟩ := split_eq_some_iff.mp found
      rw [mapError_ok_iff, of?, ofValues?_ok_iff] at parsed
      obtain ⟨normal, same⟩ := parsed
      rw [written.type.normalType] at normal
      refine ⟨lead, type, trail, ?_, normal.symm⟩
      rwa [same, String.toList_ofList]
  · rintro ⟨lead, type, trail, written, normal⟩
    have found := split_eq_some_iff.mpr ⟨lead, trail, written⟩
    rw [parse, found]
    refine mapError_ok_iff.mpr (ofValues?_ok_iff.mpr ⟨?_, ?_⟩)
    · rw [written.type.normalType, normal]
    · rw [String.ofList_toList]

theorem parse_of_small {r : Ref} {lead letters trail : List Char}
    (blank : ∀ c ∈ lead, isBlank c = true) (blank' : ∀ c ∈ trail, isBlank c = true)
    (text : IsSmallType r.type.toList) (spelled : letters.map Char.toLower = r.type.toList) :
    parse (String.ofList (lead ++ (letters ++ '[' :: (r.name.toList ++ ']' :: trail)))) = .ok r := by
  obtain ⟨small, letters'⟩ := IsSmallType.respelled (spelled ▸ text)
  have named : r.name.toList ≠ [] := fun empty => r.name_ne (String.toList_eq_nil_iff.mp empty)
  have normal : lower (String.ofList letters) = r.type := by
    rw [lower_of_ascii small, spelled, String.ofList_toList]
  exact parse_ok_iff.mpr ⟨lead, letters, trail, ⟨String.toList_ofList, blank, letters', named, blank'⟩, normal⟩

theorem display_toList (r : Ref) :
    r.display.toList = [] ++ (capitalizeChars r.type.toList ++ '[' :: (r.name.toList ++ ']' :: [])) := by
  simp [display, capitalize]

theorem written_display {r : Ref} (text : IsSmallType r.type.toList) :
    Written IsTypeText r.display.toList [] (capitalizeChars r.type.toList) r.name.toList [] := by
  have spelled := (map_toLower_capitalizeChars text.ascii).trans text.map_toLower
  have named : r.name.toList ≠ [] := fun empty => r.name_ne (String.toList_eq_nil_iff.mp empty)
  exact ⟨display_toList r, by simp, (IsSmallType.respelled (spelled.symm ▸ text)).2, named, by simp⟩

/-- References with types in small letters have display forms and keys of their own. -/
theorem display_inj_of_small {r other : Ref} (text : IsSmallType r.type.toList)
    (text' : IsSmallType other.type.toList) :
    r.display = other.display ↔ r.type = other.type ∧ r.name = other.name := by
  constructor
  · intro same
    have found := split_eq_some_iff.mpr ⟨[], [], written_display text⟩
    rw [same, split_eq_some_iff.mpr ⟨[], [], written_display text'⟩] at found
    obtain ⟨types, names⟩ := Prod.mk.inj (Option.some.inj found)
    have spelled := congrArg (List.map Char.toLower) types
    rw [map_toLower_capitalizeChars text.ascii, map_toLower_capitalizeChars text'.ascii, text.map_toLower,
      text'.map_toLower] at spelled
    exact ⟨(String.toList_inj.mp spelled).symm, (String.toList_inj.mp names).symm⟩
  · rintro ⟨types, names⟩
    rw [display, display, types, names]

theorem key_inj_of_small {r other : Ref} (text : IsSmallType r.type.toList) (text' : IsSmallType other.type.toList) :
    r.key = other.key ↔ r.type = other.type ∧ r.name = other.name := by
  have parts (r : Ref) : r.key.toList = r.type.toList ++ '/' :: r.name.toList := by simp [key]
  have first {r : Ref} (text : IsSmallType r.type.toList) : r.key.toList.takeWhile (· != '/') = r.type.toList := by
    have inside : ∀ c ∈ r.type.toList, (c != '/') = true := by
      intro c member
      rw [bne_iff_ne]
      rintro rfl
      exact absurd (text.all '/' member) (by decide)
    rw [parts, List.takeWhile_append_of_pos inside]
    simp
  constructor
  · intro same
    have types : r.type.toList = other.type.toList := by rw [← first text, same, first text']
    have whole : r.type.toList ++ '/' :: r.name.toList = r.type.toList ++ '/' :: other.name.toList := by
      rw [← parts, same, parts, types]
    have names := List.cons.inj (List.append_cancel_left whole)
    exact ⟨String.toList_inj.mp types, String.toList_inj.mp names.2⟩
  · rintro ⟨types, names⟩
    rw [key, key, types, names]

/-- What an ASCII text writes is a type in ASCII letters. -/
theorem parse_ascii_iff {text : String} (small : ∀ c ∈ text.toList, c.toNat < 128) {r : Ref} :
    parse text = .ok r ↔ ∃ lead type trail,
      Written IsAsciiType text.toList lead type r.name.toList trail ∧ r.type.toList = type.map Char.toLower := by
  rw [parse_ok_iff]
  constructor
  · rintro ⟨lead, type, trail, written, normal⟩
    have ascii : ∀ c ∈ type, c.toNat < 128 := fun c member => small c (written.mem_of_type member)
    rw [lower_of_ascii ascii] at normal
    exact ⟨lead, type, trail, { written with type := (isAsciiType_iff ascii).mpr written.type },
      by rw [← normal, String.toList_ofList]⟩
  · rintro ⟨lead, type, trail, written, normal⟩
    have ascii : ∀ c ∈ type, c.toNat < 128 := fun c member => small c (written.mem_of_type member)
    refine ⟨lead, type, trail, { written with type := (isAsciiType_iff ascii).mp written.type }, ?_⟩
    rw [lower_of_ascii ascii, ← normal, String.ofList_toList]

theorem Written.parts {s lead type name trail : List Char} (written : Written IsAsciiType s lead type name trail)
    (small : ∀ c ∈ s, c.toNat < 128) : s = (lead ++ type) ++ '[' :: (name ++ ']' :: trail) ∧ '[' ∉ lead ++ type ∧
      ']' ∉ trail ∧ stripChars (lead ++ type) = type := by
  have text : IsTypeText type := (isAsciiType_iff fun c member => small c (written.mem_of_type member)).mp written.type
  refine ⟨by rw [written.whole, List.append_assoc], fun member => ?_, fun member => ?_, ?_⟩
  · rcases List.mem_append.mp member with inside | inside
    · exact absurd (written.lead _ inside) (by decide)
    · exact absurd (text.all _ inside) (by decide)
  · exact absurd (written.trail _ member) (by decide)
  · rw [stripChars_append written.lead, stripChars_of_not_blank fun c member => not_blank_of_isTypeChar (text.all c member)]

/-- A reference with a type in small letters is read from its display form, also with blanks around it and with its
type in letters of another case, so that neither another display form nor another key is the same. An ASCII text is
read as a reference if it writes one: then the name is all that stands between its first opening and its last closing
bracket, and the type is what stands before, in small letters. -/
theorem parse_display :
    (∀ r : Ref, IsSmallType r.type.toList → parse r.display = .ok r ∧
      ∀ lead letters trail, (∀ c ∈ lead, isBlank c = true) → (∀ c ∈ trail, isBlank c = true) →
        letters.map Char.toLower = r.type.toList →
        parse (String.ofList (lead ++ (letters ++ '[' :: (r.name.toList ++ ']' :: trail)))) = .ok r) ∧
    (∀ r other : Ref, IsSmallType r.type.toList → IsSmallType other.type.toList →
      (r.display = other.display ↔ r.type = other.type ∧ r.name = other.name) ∧
      (r.key = other.key ↔ r.type = other.type ∧ r.name = other.name)) ∧
    ∀ text : String, (∀ c ∈ text.toList, c.toNat < 128) →
      ((∃ r, parse text = .ok r) ↔ ∃ lead type name trail, Written IsAsciiType text.toList lead type name trail) ∧
      ∀ r, parse text = .ok r → ∃ before after,
        text.toList = before ++ '[' :: (r.name.toList ++ ']' :: after) ∧ '[' ∉ before ∧ ']' ∉ after ∧
        r.type.toList = (stripChars before).map Char.toLower := by
  refine ⟨fun r text => ?_, fun r other text text' => ?_, fun text small => ⟨?_, fun r parsed => ?_⟩⟩
  · have spelled := (map_toLower_capitalizeChars text.ascii).trans text.map_toLower
    have own := @parse_of_small r [] _ [] (by simp) (by simp) text spelled
    rw [← display_toList, String.ofList_toList] at own
    exact ⟨own, fun lead letters trail blank blank' spelled => parse_of_small blank blank' text spelled⟩
  · exact ⟨display_inj_of_small text text', key_inj_of_small text text'⟩
  · constructor
    · rintro ⟨r, parsed⟩
      obtain ⟨lead, type, trail, written, -⟩ := (parse_ascii_iff small).mp parsed
      exact ⟨lead, type, r.name.toList, trail, written⟩
    · rintro ⟨lead, type, name, trail, written⟩
      have typed : type.map Char.toLower ≠ [] := by
        cases written.type with
        | intro first others => simp
      let r : Ref :=
        { type := String.ofList (type.map Char.toLower)
          name := String.ofList name
          type_ne := fun empty => typed (String.ofList_eq_empty_iff.mp empty)
          name_ne := fun empty => written.name (String.ofList_eq_empty_iff.mp empty) }
      have named : r.name.toList = name := String.toList_ofList
      exact ⟨r, (parse_ascii_iff small).mpr ⟨lead, type, trail, named.symm ▸ written, String.toList_ofList⟩⟩
  · obtain ⟨lead, type, trail, written, normal⟩ := (parse_ascii_iff small).mp parsed
    obtain ⟨whole, opening, closing, stripped⟩ := written.parts small
    exact ⟨lead ++ type, trail, whole, opening, closing, by rw [stripped, normal]⟩

/-- A reference whose name is of brackets, a blank and a line feed. -/
def bracketedName : Ref := { type := "net::file", name := "]a[ \n]" }

theorem parse_display_bracketedName : parse bracketedName.display = .ok bracketedName ∧
    parse "\tnET::file[]a[ \n]] \n" = .ok bracketedName ∧
    (∀ other : Ref, IsSmallType other.type.toList → bracketedName.display = other.display →
      bracketedName.name = other.name) ∧
    ∃ before after, "\tnET::file[]a[ \n]] \n".toList = before ++ '[' :: (bracketedName.name.toList ++ ']' :: after) ∧
      '[' ∉ before ∧ ']' ∉ after := by
  have typed : IsSmallType bracketedName.type.toList :=
    .intro (by decide +kernel) (List.all_eq_true.mp (by decide +kernel))
  obtain ⟨reads, keeps, ascii⟩ := parse_display
  obtain ⟨own, spelled⟩ := reads _ typed
  have other : parse "\tnET::file[]a[ \n]] \n" = .ok bracketedName :=
    spelled ['\t'] "nET::file".toList [' ', '\n'] (List.all_eq_true.mp (by decide +kernel))
      (List.all_eq_true.mp (by decide +kernel)) (by decide +kernel)
  have low : ("\tnET::file[]a[ \n]] \n".toList.all fun c => decide (c.toNat < 128)) = true := by decide +kernel
  have small : ∀ c ∈ "\tnET::file[]a[ \n]] \n".toList, c.toNat < 128 :=
    fun c member => of_decide_eq_true (List.all_eq_true.mp low c member)
  obtain ⟨before, after, whole, opening, closing, -⟩ := (ascii _ small).2 _ other
  exact ⟨own, other, fun r small same => ((keeps _ r typed small).1.mp same).2, before, after, whole, opening, closing⟩

end Converge.Ref
