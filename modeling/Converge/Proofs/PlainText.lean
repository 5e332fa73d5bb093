import Mathlib.Data.List.TakeWhile
import Converge.Backend.Basic
import Converge.Proofs.Actions
import Converge.Proofs.SmallLetters

/-!
# Texts without surrogates

A `Plain` text holds no surrogate, so that it can be printed. Whatever is quoted or shown inside a
collection is plain, whatever it holds (`plain_quote`, `plain_literal`).
-/

namespace Converge.Text

def PlainChars (l : List Char) : Prop := ∀ c ∈ l, isSurrogate c = false

/-- No surrogate is in a text. -/
def Plain (s : String) : Prop := PlainChars s.toList

instance (l : List Char) : Decidable (PlainChars l) := List.decidableBAll (isSurrogate · = false) l

instance (s : String) : Decidable (Plain s) := inferInstanceAs (Decidable (PlainChars s.toList))

theorem plain_iff {s : String} : Plain s ↔ hasSurrogate s = false := by
  simp [Plain, PlainChars, hasSurrogate]

/-- Only high code points stand for surrogates. -/
theorem isSurrogate_of_lt {c : Char} (low : c.toNat < 0x10D800) : isSurrogate c = false := by
  have outside : ¬ (0x10D800 ≤ c.toNat ∧ c.toNat ≤ 0x10DFFF) := by omega
  rw [isSurrogate, surrogate?, if_neg outside]
  rfl

theorem encodeRaw_of_plain {s : String} (plain : Plain s) : encodeRaw s = .ok s.toUTF8 := by
  have none_of (l : List Char) (n : Nat) (each : PlainChars l) : firstSurrogates? true n l = none := by
    induction l generalizing n with
    | nil => rfl
    | cons c l ih =>
      rw [firstSurrogates?, each c (by simp)]
      exact ih (n + 1) fun d member => each d (by simp [member])
  simp [encodeRaw, none_of _ 0 plain, plain_iff.mp plain]

namespace PlainChars

variable {l m : List Char}

theorem nil : PlainChars [] := by simp [PlainChars]

theorem cons {c : Char} (first : isSurrogate c = false) (rest : PlainChars l) : PlainChars (c :: l) := by
  intro d member
  rcases List.mem_cons.mp member with rfl | later
  · exact first
  · exact rest d later

theorem append (first : PlainChars l) (second : PlainChars m) : PlainChars (l ++ m) := by
  intro c member
  rcases List.mem_append.mp member with inFirst | inSecond
  · exact first c inFirst
  · exact second c inSecond

theorem subset (plain : PlainChars m) (inside : l ⊆ m) : PlainChars l := fun c member => plain c (inside member)

theorem replicate {c : Char} (n : Nat) (plain : isSurrogate c = false) : PlainChars (List.replicate n c) := by
  intro d member
  rw [List.eq_of_mem_replicate member]
  exact plain

theorem flatMap {α : Type} {f : α → List Char} (xs : List α) (each : ∀ x ∈ xs, PlainChars (f x)) :
    PlainChars (xs.flatMap f) := by
  intro c member
  obtain ⟨x, inside, found⟩ := List.mem_flatMap.mp member
  exact each x inside c found

end PlainChars

theorem Plain.ofList {l : List Char} (plain : PlainChars l) : Plain (String.ofList l) := by
  rw [Plain, String.toList_ofList]
  exact plain

theorem Plain.append {s t : String} (first : Plain s) (second : Plain t) : Plain (s ++ t) := by
  rw [Plain, String.toList_append]
  exact PlainChars.append first second

@[simp] theorem plain_append {s t : String} : Plain (s ++ t) ↔ Plain s ∧ Plain t := by
  refine ⟨fun plain => ⟨fun c member => plain c ?_, fun c member => plain c ?_⟩, fun both => both.1.append both.2⟩
  · simp [member]
  · simp [member]

theorem Plain.intercalate {separator : String} (between : Plain separator) (parts : List String)
    (each : ∀ s ∈ parts, Plain s) : Plain (separator.intercalate parts) := by
  induction parts with
  | nil => simpa using (by decide : Plain "")
  | cons first parts ih =>
    have rest := ih fun s member => each s (by simp [member])
    cases parts with
    | nil => simpa using each first (by simp)
    | cons second parts =>
      rw [String.intercalate_cons_cons]
      exact ((each first (by simp)).append between).append rest

/-! ## Numbers -/

theorem isSurrogate_digitChar (n : Nat) : isSurrogate n.digitChar = false := by
  by_cases small : n < 16
  · have each : ∀ m < 16, isSurrogate (Nat.digitChar m) = false := by decide
    exact each n small
  · have other : n.digitChar = '*' := by
      rw [Nat.digitChar]
      repeat rw [if_neg (by omega)]
    rw [other]
    decide

theorem plainChars_toDigits (base n : Nat) : PlainChars (Nat.toDigits base n) := by
  have core (fuel : Nat) : ∀ (n : Nat) (after : List Char), PlainChars after →
      PlainChars (Nat.toDigitsCore base fuel n after) := by
    induction fuel with
    | zero => exact fun _ _ plain => plain
    | succ fuel ih =>
      intro n after plain
      rw [Nat.toDigitsCore]
      split
      · exact .cons (isSurrogate_digitChar _) plain
      · exact ih _ _ (.cons (isSurrogate_digitChar _) plain)
  exact core _ _ _ .nil

theorem plain_nat (n : Nat) : Plain (toString n) := by
  rw [Nat.toString_eq_ofList_toDigits]
  exact .ofList (plainChars_toDigits 10 n)

theorem plain_int (i : Int) : Plain (toString i) := by
  cases i with
  | ofNat n => exact plain_nat n
  | negSucc n => exact Plain.append (s := "-") (by decide) (plain_nat (n + 1))

theorem plain_whole {i : Int} {s : String} (shown : showWhole? i = some s) : Plain s := by
  simp only [showWhole?, Option.ite_none_left_eq_some, Option.some.injEq] at shown
  obtain ⟨-, rfl⟩ := shown
  split
  · exact Plain.append (by decide) (plain_nat _)
  · exact plain_nat _

/-! ## Quoted texts -/

/-- Where all changes of a class have happened, an even number of them leaves nothing in it. -/
theorem Ranges.holds_of_past {r : Ranges} {n : Nat} (past : ∀ b ∈ r, b ≤ n) (even : r.length % 2 = 0) :
    r.holds n = false := by
  have all : r.takeWhile (· ≤ n) = r := List.takeWhile_eq_self_iff.mpr (by simpa using past)
  simp [Ranges.holds, all, even]

theorem isSurrogate_of_isPrintable {c : Char} (printable : isPrintable c = true) : isSurrogate c = false := by
  rcases Nat.lt_or_ge c.toNat 0x10D800 with low | high
  · exact isSurrogate_of_lt low
  · have past : ∀ b ∈ printableRanges, b ≤ 0x10D800 := by decide +kernel
    have outside : printableRanges.holds c.toNat = false :=
      Ranges.holds_of_past (fun b member => (past b member).trans high) (by decide +kernel)
    have large : ¬ c.toNat < 128 := by omega
    simp [isPrintable, large, outside] at printable

theorem plainChars_hexDigits (width n : Nat) : PlainChars (hexDigits width n) := by
  induction width generalizing n with
  | zero => exact .nil
  | succ width ih => exact (ih _).append (.cons (isSurrogate_digitChar _) .nil)

theorem plainChars_quoteChar {mark : Char} {plain : Char → Bool} (plainMark : isSurrogate mark = false)
    (shows : ∀ c, plain c = true → isSurrogate c = false) (c : Char) :
    PlainChars (quoteChar mark plain c) := by
  have escape (a : Char) (low : isSurrogate a = false) {l : List Char} (rest : PlainChars l) :
      PlainChars ('\\' :: a :: l) := .cons (by decide) (.cons low rest)
  rw [quoteChar]
  split
  · next own =>
    rw [Bool.or_eq_true, decide_eq_true_eq, decide_eq_true_eq] at own
    rcases own with rfl | rfl
    · exact escape c plainMark .nil
    · exact escape _ (by decide) .nil
  · split
    · exact escape _ (by decide) .nil
    · split
      · exact escape _ (by decide) .nil
      · split
        · exact escape _ (by decide) .nil
        · split
          · next shown => exact .cons (shows c shown) .nil
          · simp only
            split
            · exact escape _ (by decide) (plainChars_hexDigits _ _)
            · split
              · exact escape _ (by decide) (plainChars_hexDigits _ _)
              · exact escape _ (by decide) (plainChars_hexDigits _ _)

theorem isSurrogate_quoteMark (s : List Char) : isSurrogate (quoteMark s) = false := by
  rw [quoteMark]
  split <;> decide

theorem plain_quote (s : String) : Plain (quote s) := by
  have mark := isSurrogate_quoteMark s.toList
  refine .ofList (.append (.cons mark (.flatMap _ fun c _ => ?_)) (.cons mark .nil))
  exact plainChars_quoteChar mark (fun _ => isSurrogate_of_isPrintable) c

theorem plain_quoteBytes (bytes : ByteArray) : Plain (quoteBytes bytes) := by
  have mark := isSurrogate_quoteMark (bytes.toList.map fun b => Char.ofNat b.toNat)
  refine .ofList (.cons (by decide) (.append (.cons mark (.flatMap _ fun c _ => ?_)) (.cons mark .nil)))
  refine plainChars_quoteChar mark (fun d shown => ?_) c
  rw [Bool.and_eq_true, decide_eq_true_eq, decide_eq_true_eq] at shown
  exact isSurrogate_of_lt (by omega)

end Converge.Text

namespace Converge

open Text

theorem Errno.plain_text (e : Errno) : Plain e.text := by
  cases e <;> decide

/-! ## Values inside collections -/

theorem plain_commas (parts : List String) (each : ∀ s ∈ parts, Plain s) : Plain (", ".intercalate parts) :=
  Plain.intercalate (by decide) parts each

theorem Date.plain_literal (d : Date) : Plain d.literal := by
  refine ((by decide : Plain "datetime.date(").append (plain_commas _ ?_)).append (by decide)
  intro s member
  simp only [List.mem_cons, List.not_mem_nil, or_false] at member
  rcases member with rfl | rfl | rfl
  all_goals exact plain_nat _

theorem plain_spanText (micros : Int) : Plain (spanText micros) := by
  have part (name : String) (n : Int) (plain : Plain name) :
      ∀ s ∈ (if n = 0 then [] else [name ++ "=" ++ toString n]), Plain s := by
    intro s member
    split at member
    · cases member
    · rw [List.mem_singleton] at member
      subst member
      exact (plain.append (by decide)).append (plain_int n)
  refine ((by decide : Plain "datetime.timedelta(").append ?_).append (by decide)
  split
  · decide
  · refine plain_commas _ fun s member => ?_
    rcases List.mem_append.mp member with earlier | rest
    · rcases List.mem_append.mp earlier with days | seconds
      · exact part _ _ (by decide) s days
      · exact part _ _ (by decide) s seconds
    · exact part _ _ (by decide) s rest

theorem Moment.plain_literal (m : Moment) : Plain m.literal := by
  refine ((by decide : Plain "datetime.datetime(").append (plain_commas _ fun s member => ?_)).append (by decide)
  rcases List.mem_append.mp member with numbers | named
  · have number : ∃ n : Nat, s = toString n := by
      rcases List.mem_append.mp numbers with main | seconds
      · obtain ⟨n, -, rfl⟩ := List.mem_map.mp main
        exact ⟨n, rfl⟩
      · split at seconds
        · simp only [List.mem_cons, List.not_mem_nil, or_false] at seconds
          rcases seconds with rfl | rfl
          · exact ⟨_, rfl⟩
          · exact ⟨_, rfl⟩
        · split at seconds
          · exact ⟨_, List.mem_singleton.mp seconds⟩
          · cases seconds
    obtain ⟨n, rfl⟩ := number
    exact plain_nat n
  · split at named
    · cases named
    · rw [List.mem_singleton] at named
      subst named
      decide
    · rw [List.mem_singleton] at named
      subst named
      exact ((by decide : Plain "tzinfo=datetime.timezone(").append (plain_spanText _)).append (by decide)

theorem plainChars_place {digits : List Char} (plain : PlainChars digits) (last : Int) :
    PlainChars (Double.place digits last) := by
  have zeros (k : Nat) : PlainChars (List.replicate k '0') := .replicate k (by decide)
  unfold Double.place
  simp only
  split
  · split
    · exact ((by decide : PlainChars ['0', '.']).append (zeros _)).append plain
    · split
      · exact (plain.append (zeros _)).append (by decide)
      · refine (plain.subset (List.take_subset _ _)).append (.cons (by decide) ?_)
        exact plain.subset (List.drop_subset _ _)
  · refine PlainChars.append ?_ (.cons ?_ (.cons ?_ ?_))
    · split
      · exact plain
      · exact .cons (plain _ (by simp)) (.cons (by decide) fun c member => plain c (by simp [member]))
      · exact .nil
    · decide
    · split
      · decide
      · decide
    · split
      · exact .cons (by decide) (plain_nat _)
      · exact plain_nat _

theorem Double.plain_text (d : Double) : Plain d.text := by
  cases d with
  | nan => decide
  | infinite negative => cases negative <;> decide
  | finite negative m e =>
    have body : PlainChars (if m = 0 then ['0', '.', '0']
        else Double.place (toString (Double.trimZeros 20 (Double.shortest m e)).1).toList
          (Double.trimZeros 20 (Double.shortest m e)).2) := by
      split
      · decide
      · exact plainChars_place (plain_nat _) _
    rw [Double.text]
    cases negative
    · exact .ofList body
    · exact .ofList (.cons (by decide) body)

namespace Value

theorem plain_bracketed {first last : String} {lone : Bool} {parts : List String} (opening : Plain first)
    (closing : Plain last) (each : ∀ s ∈ parts, Plain s) : Plain (bracketed first last lone parts) := by
  refine ((opening.append (plain_commas _ each)).append ?_).append closing
  split <;> decide

theorem plain_shape (shape : Shape) : Plain shape.text := by
  cases shape <;> decide

mutual

/-- What is shown of a value inside a collection is plain, whatever the value holds. -/
theorem plain_literalIn {around : List Nat} {v : Value} {s : String} (shown : literalIn? around v = some s) :
    Plain s := by
  match v with
  | .null => cases shown; decide
  | .bool b => cases shown; cases b <;> decide
  | .int i => exact plain_whole shown
  | .float d => cases shown; exact d.plain_text
  | .text t => cases shown; exact plain_quote t
  | .bytes b => cases shown; exact plain_quoteBytes b
  | .date _ d => cases shown; exact d.plain_literal
  | .moment _ m => cases shown; exact m.plain_literal
  | .list share items =>
    rw [literalIn?] at shown
    split at shown
    · cases shown
      exact plain_shape .list
    · obtain ⟨parts, each, rfl⟩ := Option.map_eq_some_iff.mp shown
      exact plain_bracketed (by decide) (by decide) (plain_literalsIn each)
  | .tuple items =>
    rw [literalIn?] at shown
    obtain ⟨parts, each, rfl⟩ := Option.map_eq_some_iff.mp shown
    exact plain_bracketed (by decide) (by decide) (plain_literalsIn each)
  | .map share entries =>
    rw [literalIn?] at shown
    split at shown
    · cases shown
      exact plain_shape .map
    · obtain ⟨parts, each, rfl⟩ := Option.map_eq_some_iff.mp shown
      exact plain_bracketed (by decide) (by decide) (plain_entryLiteralsIn each)
  | .set _ items =>
    rw [literalIn?] at shown
    split at shown
    · cases shown
      decide
    · obtain ⟨parts, each, rfl⟩ := Option.map_eq_some_iff.mp shown
      exact plain_bracketed (by decide) (by decide) (plain_literalsIn each)
  | .again _ shape => cases shown; exact plain_shape shape
  | .foreign => cases shown; decide

theorem plain_literalsIn {around : List Nat} {vs : List Value} {parts : List String}
    (shown : literalsIn? around vs = some parts) : ∀ s ∈ parts, Plain s := by
  match vs with
  | [] =>
    cases shown
    simp
  | v :: rest =>
    simp only [literalsIn?, bind, Option.bind_eq_some_iff, pure, Option.some.injEq] at shown
    obtain ⟨first, here, others, later, rfl⟩ := shown
    intro s member
    rcases List.mem_cons.mp member with rfl | member
    · exact plain_literalIn here
    · exact plain_literalsIn later s member

theorem plain_entryLiteralsIn {around : List Nat} {entries : List (Value × Value)} {parts : List String}
    (shown : entryLiteralsIn? around entries = some parts) : ∀ s ∈ parts, Plain s := by
  match entries with
  | [] =>
    cases shown
    simp
  | (k, v) :: rest =>
    simp only [entryLiteralsIn?, bind, Option.bind_eq_some_iff, pure, Option.some.injEq] at shown
    obtain ⟨key, named, value, held, others, later, rfl⟩ := shown
    intro s member
    rcases List.mem_cons.mp member with rfl | member
    · exact ((plain_literalIn named).append (by decide)).append (plain_literalIn held)
    · exact plain_entryLiteralsIn later s member

end

end Value

/-! ## References -/

namespace Validation

theorem both_ok_iff {α β : Type} {a : Checked α} {b : Checked β} {both : α × β} :
    Validation.both a b = .ok both ↔ a = .ok both.1 ∧ b = .ok both.2 := by
  cases a with
  | error p => cases b <;> simp [Validation.both]
  | ok x => cases b <;> simp [Validation.both, Prod.ext_iff]

theorem readText_text {s t : String} : readText (.text s) = .ok t ↔ s = t := by
  simp [readText]

end Validation

theorem Ref.checkType_ok_iff {x : Validation.Checked String} {t : { s : String // s ≠ "" }} :
    checkType x = .ok t ↔ ∃ s, x = .ok s ∧ t.1 = normalType s := by
  cases x with
  | error problems => simp [checkType, Except.bind]
  | ok s =>
    simp only [checkType, Except.bind, Except.ok.injEq, exists_eq_left']
    split
    · next empty => simpa [empty] using t.2
    · simp [Subtype.ext_iff, eq_comm]

theorem Ref.checkName_ok_iff {x : Validation.Checked String} {n : { s : String // s ≠ "" }} :
    checkName x = .ok n ↔ x = .ok n.1 := by
  cases x with
  | error problems => simp [checkName, Except.bind]
  | ok s =>
    simp only [checkName, Except.bind, Except.ok.injEq]
    split
    · next empty => simpa [empty] using n.2.symm
    · simp [Subtype.ext_iff]

/-- A reference is built from texts: the type in the form in which it is kept, and the name. -/
theorem Ref.ofValues?_ok_iff {type name : String} {ref : Ref} : Ref.ofValues? (.text type) (.text name) = .ok ref ↔
    ref.type = normalType type ∧ ref.name = name := by
  simp only [ofValues?, Validation.reported, mapError_ok_iff, check, map_ok_iff, Validation.both_ok_iff,
    checkType_ok_iff, checkName_ok_iff, Validation.atPath, Validation.readText_text]
  constructor
  · rintro ⟨⟨t, n⟩, ⟨⟨s, rfl, normal⟩, same⟩, rfl⟩
    exact ⟨normal, same.symm⟩
  · rintro ⟨normal, same⟩
    exact ⟨(⟨ref.type, ref.type_ne⟩, ⟨ref.name, ref.name_ne⟩), ⟨⟨type, rfl, normal⟩, same.symm⟩, rfl⟩

/-! ## Results of backends -/

theorem plain_shown_map {share : Share} {entries : List (Value × Value)} {s : String}
    (shown : (Value.map share entries).shown = .ok s) : Plain s := by
  rw [Value.shown] at shown
  split at shown
  · next text found =>
    cases shown
    exact Value.plain_literalIn found
  · cases shown

theorem Resource.plain_literal {r : Resource} {s : String} (shown : r.literal = .ok s) : Plain s := by
  rw [literal, bind_eq_ok] at shown
  obtain ⟨parameters, given, shown⟩ := shown
  rw [← Except.ok.inj shown]
  simp only [plain_append]
  and_intros
  · decide
  · exact plain_quote _
  · decide
  · exact plain_quote _
  · decide
  · exact plain_shown_map given
  · decide

theorem plain_boolText (b : Bool) : Plain (Value.boolText b) := by
  cases b <;> decide

theorem Enforcement.plain_literal {e : Enforcement} {s : String} (shown : e.literal = .ok s) : Plain s := by
  rw [literal, bind_eq_ok] at shown
  obtain ⟨resource, found, shown⟩ := shown
  rw [← Except.ok.inj shown]
  simp only [plain_append]
  and_intros
  · decide
  · exact plain_boolText _
  · decide
  · cases e.failure with
    | none => decide
    | some message => exact plain_quote message
  · decide
  · exact e.resource.plain_literal found
  · decide

theorem BlockResult.plain_literal {b : BlockResult} {s : String} (shown : b.literal = .ok s) : Plain s := by
  rw [literal, bind_eq_ok] at shown
  obtain ⟨resources, found, shown⟩ := shown
  rw [← Except.ok.inj shown]
  simp only [plain_append]
  and_intros
  · decide
  · exact plain_boolText _
  · decide
  · exact plain_commas _ fun message member => by
      obtain ⟨failure, -, rfl⟩ := List.mem_map.mp member
      exact plain_quote failure
  · decide
  · exact plain_commas _ (forall_of_mapM_ok (fun _ _ => Resource.plain_literal) b.resources found)
  · decide

/-! ## Printing -/

namespace Console

theorem withoutControls_subset (fuel : Nat) (l : List Char) : withoutControls fuel l ⊆ l := by
  fun_induction withoutControls fuel l with
  | case1 => exact List.Subset.refl _
  | case2 => exact List.Subset.refl _
  | case3 fuel rest c after found _ ih =>
    have inside : c :: after ⊆ rest := found ▸ (List.dropWhile_sublist _).subset
    intro d member
    exact List.mem_cons_of_mem _ (List.mem_cons_of_mem _ (inside (List.mem_cons_of_mem _ (ih member))))
  | case4 _ _ _ _ _ _ ih => exact List.cons_subset_cons _ ih
  | case5 _ _ _ ih => exact List.cons_subset_cons _ ih
  | case6 _ _ _ _ ih => exact List.cons_subset_cons _ ih

@[simp] theorem asBytes_log (c : Console) (level : Level) (message : String) :
    (c.log level message).asBytes = c.asBytes := by
  simp only [Console.log]
  repeat' split
  all_goals rfl

theorem plain_lineOf {text : String} (plain : Plain text) : Plain (lineOf text) :=
  .ofList ((plain.append (by decide : Plain "\n")).subset (withoutControls_subset _ _))

/-- A line printed on a console of a kind: one that becomes bytes must hold no surrogate. -/
def takes (asBytes : Bool) (text : String) : Except Fault Unit :=
  if asBytes then ((Text.encode (lineOf text)).mapError .encoding).map fun _ => () else .ok ()

theorem encoding_of_takes {asBytes : Bool} {text : String} {fault : Fault}
    (untaken : takes asBytes text = .error fault) :
    ∃ cause, fault = .encoding cause := by
  rw [takes] at untaken
  split at untaken
  · cases encoded : Text.encode (lineOf text) with
    | ok bytes =>
      rw [encoded] at untaken
      cases untaken
    | error cause =>
      rw [encoded] at untaken
      cases untaken
      exact ⟨cause, rfl⟩
  · cases untaken

theorem takes_of_plain {text : String} (plain : Plain text) (asBytes : Bool) : takes asBytes text = .ok () := by
  have encoded := encode_of_not_hasSurrogate (plain_iff.mp (plain_lineOf plain))
  simp [takes, encoded, Except.mapError, Except.map]

end Console

namespace Action

variable {σ : Type} [Hosted σ]

theorem result_print (text : String) (s : σ) : (Action.print text).result s =
    match Console.takes (Hosted.host s).console.asBytes text with
    | .ok () => (.ok (), Hosted.withHost s { Hosted.host s with
        console := { (Hosted.host s).console with out := (Hosted.host s).console.out ++ Console.lineOf text } })
    | .error fault => (.error fault, s) := by
  rw [Action.print, Action.result_of]
  dsimp only
  rw [Console.print, Console.takes]
  by_cases bytes : (Hosted.host s).console.asBytes = true
  · rw [if_pos bytes, if_pos bytes]
    cases Text.encode (Console.lineOf text) <;> rfl
  · rw [if_neg bytes, if_neg bytes]
    rfl

/-- A plain text is printed on any console. -/
theorem result_print_of_plain {text : String} (plain : Plain text) (s : σ) : (Action.print text).result s =
    (.ok (), Hosted.withHost s { Hosted.host s with
      console := { (Hosted.host s).console with out := (Hosted.host s).console.out ++ Console.lineOf text } }) := by
  rw [result_print, Console.takes_of_plain plain]

end Action

end Converge
