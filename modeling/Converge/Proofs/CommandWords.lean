import Converge.Proofs.CommandCourses

/-!
# Words of commands

A command line has no word just when it holds nothing but separators (`split_eq_nil_iff`): any other character begins a
word, and once a word has begun it is there at the end, be it an empty one between two marks. Separators are blank, and
the line of a valid command is not, so it is cut into one word at least where it is cut into words at all. Only its
guard can be without words, and just this stops a command for want of a program (`apply_worded`).
-/

namespace Converge

/-! ## Lines without words -/

namespace Words

/-- Once a word has begun, the words that are read have that one among them. -/
theorem ne_nil_of_wordsFrom {state : State} {l : List Char} {words : List (List Char)} (begun : state ≠ .between)
    (read : wordsFrom state l = .ok words) : words ≠ [] := by
  -- No character leads back from a word to the state between words, except by ending the word.
  induction l generalizing state with
  | nil =>
    cases state with
    | between => exact absurd rfl begun
    | word current =>
      cases read
      exact List.cons_ne_nil _ _
    | quoted mark current => cases read
    | escaped mark current => cases read
  | cons c rest ih =>
    cases state with
    | between => exact absurd rfl begun
    | word current =>
      rw [wordsFrom] at read
      split at read
      · obtain ⟨later, -, rfl⟩ := map_ok_iff.mp read
        exact List.cons_ne_nil _ _
      · split at read
        · exact ih (by simp) read
        · split at read
          · exact ih (by simp) read
          · exact ih (by simp) read
    | quoted mark current =>
      rw [wordsFrom] at read
      split at read
      · exact ih (by simp) read
      · split at read
        · exact ih (by simp) read
        · exact ih (by simp) read
    | escaped mark current =>
      cases mark with
      | none => exact ih (by simp) read
      | some mark =>
        rw [wordsFrom] at read
        split at read
        · exact ih (by simp) read
        · exact ih (by simp) read

theorem wordsFrom_between_eq_nil_iff {l : List Char} :
    wordsFrom .between l = .ok [] ↔ ∀ c ∈ l, isSeparator c = true := by
  induction l with
  | nil => simp [wordsFrom]
  | cons c rest ih =>
    rw [List.forall_mem_cons, ← ih, wordsFrom]
    by_cases separator : isSeparator c = true
    · rw [if_pos separator, and_iff_right separator]
    · rw [if_neg separator]
      refine iff_of_false (fun read => ?_) fun both => separator both.1
      split at read
      · exact ne_nil_of_wordsFrom (by simp) read rfl
      · split at read
        · exact ne_nil_of_wordsFrom (by simp) read rfl
        · exact ne_nil_of_wordsFrom (by simp) read rfl

/-- A line has no words if and only if it holds nothing but separators. -/
theorem split_eq_nil_iff {line : String} : split line = .ok [] ↔ ∀ c ∈ line.toList, isSeparator c = true := by
  rw [split, map_ok_iff, ← wordsFrom_between_eq_nil_iff]
  simp

theorem isBlank_of_isSeparator {c : Char} (separator : isSeparator c = true) : Text.isBlank c = true := by
  simp only [isSeparator, Bool.or_eq_true, beq_iff_eq] at separator
  rcases separator with ((rfl | rfl) | rfl) | rfl <;> decide

end Words

/-- Nothing is left of a text just when it holds nothing but blanks. -/
theorem Text.strip_eq_empty_iff {s : String} : strip s = "" ↔ ∀ c ∈ s.toList, isBlank c = true := by
  rw [strip, String.ofList_eq_empty_iff, stripChars, dropRight, List.reverse_eq_nil_iff, List.dropWhile_eq_nil_iff]
  simp only [List.mem_reverse]
  constructor
  · intro later c member
    rw [← List.takeWhile_append_dropWhile (p := isBlank) (l := s.toList), List.mem_append] at member
    exact member.elim List.mem_takeWhile_imp (later c)
  · exact fun blank c member => blank c ((List.dropWhile_sublist isBlank).subset member)

/-- What is left of a line that is no more than blank when it is cut into words. -/
theorem Words.exists_word_of_strip {line : String} (filled : Text.strip line ≠ "") {words : List String}
    (cut : split line = .ok words) : ∃ first rest, words = first :: rest := by
  refine List.exists_cons_of_ne_nil ?_
  rintro rfl
  exact filled (Text.strip_eq_empty_iff.mpr fun c member => isBlank_of_isSeparator (split_eq_nil_iff.mp cut c member))

namespace ResourceType.Exec

variable {r : Resource} {h : Host}

/-! ## The lines of a command resource -/

theorem filled_of_valid (valid : ResourceType.exec.validate r = .ok ()) :
    ∃ line, commandOf r = .text line ∧ Text.strip line ≠ "" := by
  obtain ⟨_, -, own⟩ := bind_eq_ok.mp valid
  have checked : validateExec r = .ok () := own
  simp only [validateExec] at checked
  split at checked
  · next line given =>
    split at checked
    · cases checked
    · next filled => exact ⟨line, given, filled⟩
  · cases checked

/-- A line is cut into no words just when it is a text of separators. -/
theorem wordsOf_eq_nil_iff {line : Value} :
    wordsOf line = .ok [] ↔ ∃ s, line = .text s ∧ ∀ c ∈ s.toList, Words.isSeparator c = true := by
  cases line with
  | text s =>
    simp only [Value.text.injEq, exists_eq_left', ← Words.split_eq_nil_iff]
    rw [wordsOf]
    cases Words.split s with
    | error fault => simp
    | ok words => simp
  | _ => simp [wordsOf]

/-- The line of a valid command is not cut into words, or begins with a program. -/
theorem wordsOf_command (valid : ResourceType.exec.validate r = .ok ()) :
    (∃ fault, wordsOf (commandOf r) = .error (.words fault)) ∨
      ∃ program arguments, wordsOf (commandOf r) = .ok (.text program :: arguments) := by
  obtain ⟨line, given, filled⟩ := filled_of_valid valid
  rw [given, wordsOf]
  cases cut : Words.split line with
  | error fault => exact .inl ⟨fault, rfl⟩
  | ok words =>
    obtain ⟨first, rest, rfl⟩ := Words.exists_word_of_strip filled cut
    exact .inr ⟨first, rest.map .text, rfl⟩

/-! ## Commands without a program -/

def Programmed (fault : Fault) : Prop := fault ≠ .noWords

/-- Only a line without words makes no command for want of a program. -/
theorem programmed_commandFor {line : Value} (worded : wordsOf line ≠ .ok []) :
    Fails Programmed (commandFor r line) := by
  refine .bindOf (fails_wordsOf_of (fun _ => Fault.noConfusion) (fun _ => Fault.noConfusion) line) fun words cut => ?_
  refine Host.fails_commandOf_of (fun _ => Fault.noConfusion) (fun _ => Fault.noConfusion) Fault.noConfusion
    (fun none => ?_) _
  exact absurd (none ▸ cut) worded

/-- Starting what a line makes breaks for want of a program just when the line has no words. -/
theorem upshot_noWords_iff {line : Value} :
    (h.upshot (commandFor r line)).1 = .broken .noWords ↔ wordsOf line = .ok [] := by
  constructor
  · intro broken
    by_contra worded
    exact Host.broken_of (fun _ => Fault.noConfusion) (programmed_commandFor worded) broken rfl
  · intro none
    rw [commandFor, none]
    rfl

theorem ownCourse_ne_noWords (worded : wordsOf (commandOf r) ≠ .ok []) (noop : Bool) (h : Host) :
    (ownCourse r noop h).1 ≠ .broken .noWords := by
  rw [ownCourse]
  split
  · exact Course.noConfusion
  · have started := (not_congr (upshot_noWords_iff (h := h) (r := r))).mpr worded
    dsimp only
    cases upshot : (h.upshot (commandFor r (commandOf r))).1 with
    | ended status output => exact Course.noConfusion
    | refused errno => exact Course.noConfusion
    | broken fault =>
      rintro ⟨⟩
      exact started upshot

/-- A course breaks for want of a program just when the guard has no words. -/
theorem course_noWords_iff (worded : wordsOf (commandOf r) ≠ .ok []) (noop : Bool) :
    (course r noop h).1 = .broken .noWords ↔ wordsOf (guardOf r) = .ok [] := by
  by_cases unguarded : guardOf r = .null
  · rw [course, unguarded]
    exact iff_of_false (ownCourse_ne_noWords worded noop h) (by simp [wordsOf])
  · rw [course_of_ne unguarded, ← upshot_noWords_iff (h := h) (r := r)]
    generalize h.upshot (commandFor r (guardOf r)) = upshot
    obtain ⟨upshot, after⟩ := upshot
    cases upshot with
    | ended status output =>
      refine iff_of_false ?_ Upshot.noConfusion
      dsimp only
      split
      · exact Course.noConfusion
      · exact ownCourse_ne_noWords worded noop after
    | refused errno => exact iff_of_false Course.noConfusion Upshot.noConfusion
    | broken fault => simp

/-- What stops the telling of a course is a number too long to be shown, or what broke the course. -/
theorem raises_tell {P : Fault → Prop} (number : P .longNumber) {accepted : List Int}
    (returns : returnsOf r = .ok accepted) {c : Course} (broken : ∀ fault, c = .broken fault → P fault) :
    Raises P (c.tell r) := by
  have shown (v : Value) : Fails P v.shown := by
    rw [Value.shown]
    split
    · exact .ok _
    · exact .error number
  have line : Raises P (commandText r) := .ofExcept (shown _)
  cases c with
  | held => exact .pure _
  | announced => exact .bind line fun _ => .pure _
  | refused errno => exact .bind line fun _ => .pure _
  | broken fault => exact .throw (broken fault rfl)
  | ran status output =>
    rw [Course.tell, judge, returns]
    refine .bind (.forM _ fun _ => .onConsole _) fun _ => .bind (.ofExcept (.ok accepted)) fun _ => .ite (.pure _) ?_
    exact .bind (.mapM _ fun _ => .ofExcept (shown _)) fun _ => .bind line fun _ => .pure _

theorem tell_noWords_iff {accepted : List Int} (returns : returnsOf r = .ok accepted) {c : Course} :
    ((c.tell r).result h).1 = .error .noWords ↔ c = .broken .noWords := by
  constructor
  · intro stopped
    by_contra other
    have raises : Raises Programmed (c.tell r) :=
      raises_tell Fault.noConfusion returns fun fault broken same => other (same ▸ broken)
    exact raises h _ stopped rfl
  · rintro rfl
    rfl

/-- A line with words is never run without a program. -/
theorem run_ne_noWords {line : Value} (worded : wordsOf line ≠ .ok []) (directory : Value) (h : Host) :
    ((run line directory).result h).1 ≠ .error .noWords := by
  cases cut : wordsOf line with
  | error fault =>
    have stopped : (Action.ofExcept (wordsOf line) : Action Host (List Value)).result h = (.error fault, h) := by
      rw [Action.result_ofExcept, cut]
    rw [run, Action.result_bind_of_error stopped]
    rintro ⟨⟩
    exact fails_wordsOf_of (P := Programmed) (fun _ => Fault.noConfusion) (fun _ => Fault.noConfusion) line _ cut rfl
  | ok words =>
    have done : (Action.ofExcept (wordsOf line) : Action Host (List Value)).result h = (.ok words, h) := by
      rw [Action.result_ofExcept, cut]
    rw [run, Action.result_bind_of_ok done, Host.run_result]
    have made : Fails Programmed (Host.commandOf words directory) :=
      Host.fails_commandOf_of (fun _ => Fault.noConfusion) (fun _ => Fault.noConfusion) Fault.noConfusion
        (fun none => absurd (none ▸ cut) worded) directory
    cases upshot : (h.upshot (Host.commandOf words directory)).1 with
    | ended status output => rintro ⟨⟩
    | refused errno => rintro ⟨⟩
    | broken fault =>
      rintro ⟨⟩
      exact Host.broken_of (fun _ => Fault.noConfusion) made upshot rfl

theorem guardOf_eq_text_iff {s : String} : guardOf r = .text s ↔ r.param? "unless" = some (.text s) := by
  rw [guardOf]
  cases r.param? "unless" <;> simp

/-- What keeps the system from saying whether a command is needless is not the want of a program. -/
theorem createdAt_ne_noWords : createdAt r h ≠ .error .noWords := by
  rw [createdAt]
  split
  · intro refused
    obtain ⟨-, -, same⟩ := Host.standing_eq_error_iff.mp refused
    cases same
  · rintro ⟨⟩

/-- The line of a valid command is not cut into words, or begins with a program, so that the command is never started
without one. A command resource stops for want of a program just when it is not needless and its guard holds nothing
but separators. -/
theorem apply_worded (valid : ResourceType.exec.validate r = .ok ()) :
    ((∃ fault, wordsOf (commandOf r) = .error (.words fault)) ∨
      ∃ program arguments, wordsOf (commandOf r) = .ok (.text program :: arguments)) ∧
    (∀ directory h, ((run (commandOf r) directory).result h).1 ≠ .error .noWords) ∧
    ∀ noop h, ((ResourceType.exec.apply r noop).result h).1 = .error .noWords ↔ createdAt r h = .ok none ∧
      ∃ guard, r.param? "unless" = some (.text guard) ∧ ∀ c ∈ guard.toList, Words.isSeparator c = true := by
  have words := wordsOf_command valid
  have worded : wordsOf (commandOf r) ≠ .ok [] := by
    rcases words with ⟨fault, cut⟩ | ⟨program, arguments, cut⟩
    · simp [cut]
    · simp [cut]
  refine ⟨words, run_ne_noWords worded, fun noop h => ?_⟩
  have applied : (ResourceType.exec.apply r noop).result h = _ := apply_result (validExec valid) noop h
  obtain ⟨accepted, returns⟩ := (validExec valid).returns
  rw [applied]
  cases seen : createdAt r h with
  | error fault =>
    refine iff_of_false ?_ (by simp)
    rintro ⟨⟩
    exact createdAt_ne_noWords seen
  | ok found =>
    cases found with
    | some entry => simp
    | none =>
      dsimp only
      rw [tell_noWords_iff returns, course_noWords_iff worded, wordsOf_eq_nil_iff]
      simp [guardOf_eq_text_iff]

/-- A command whose only word is empty, with a guard that has none. -/
def emptyWord : Resource :=
  ⟨{ type := "exec", name := "/bin/true" }, Table.ofList [("command", .text " ''\t"), ("unless", .text " \n")]⟩

theorem apply_worded_emptyWord : ResourceType.exec.validate emptyWord = .ok () ∧
    wordsOf (commandOf emptyWord) = .ok [.text ""] ∧
    ((run (commandOf emptyWord) .null).result counting).1 ≠ .error .noWords ∧
    ((ResourceType.exec.apply emptyWord false).result counting).1 = .error .noWords := by
  have valid : ResourceType.exec.validate emptyWord = .ok () := eq_ok_of_toOption (by decide +kernel)
  have separators : ∀ c ∈ " \n".toList, Words.isSeparator c = true := by simp [Words.isSeparator]
  obtain ⟨-, programmed, stopped⟩ := apply_worded valid
  exact ⟨valid, rfl, programmed .null counting, (stopped false counting).mpr ⟨rfl, " \n", rfl, separators⟩⟩

end ResourceType.Exec

end Converge
