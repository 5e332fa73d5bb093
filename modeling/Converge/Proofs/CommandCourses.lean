import Converge.Proofs.Frames
import Converge.Proofs.Launches
import Converge.Proofs.Paths
import Converge.Proofs.Standing
import Converge.Proofs.Judgements

/-!
# Courses of commands

A command that is not needless takes one of few courses: its guard holds it back, it is announced, the system refuses
to start one of the two, or it ends (`course`). What is told of each course is known (`Told`), so that is what bringing
about a command comes to (`apply_result`). When only the system decides on a command, its guard is run once and it
itself at most once after it (`apply_started`); but a path with too long a name and a character that no command can
have stop it with a fault (`apply_unready`).
-/

namespace Converge

/-! ## Shown values that are no paths -/

/-- A text does not begin as an absolute path does. -/
def Unrooted (s : String) : Prop := Path.isAbsolute s = false

instance (s : String) : Decidable (Unrooted s) := inferInstanceAs (Decidable (_ = _))

theorem unrooted_of_head {s : String} {c : Char} {l : List Char} (first : s.toList = c :: l) (other : c ≠ '/') :
    Unrooted s := by
  simp [Unrooted, Path.isAbsolute, first, other]

theorem unrooted_of_not_mem {s : String} (none : '/' ∉ s.toList) : Unrooted s := by
  cases same : s.toList with
  | nil => simp [Unrooted, Path.isAbsolute, same]
  | cons c l => exact unrooted_of_head same fun slash => none (by simp [same, slash])

/-- A text that is not empty decides how all that begins with it begins. -/
theorem Unrooted.append {s : String} (opens : Unrooted s) (filled : s ≠ "") (t : String) : Unrooted (s ++ t) := by
  cases same : s.toList with
  | nil => exact absurd (String.toList_eq_nil_iff.mp same) filled
  | cons c l =>
    refine unrooted_of_head (l := l ++ t.toList) (by rw [String.toList_append, same]; rfl) ?_
    simpa [Unrooted, Path.isAbsolute, same] using opens

theorem slash_not_mem_digits (n : Nat) : '/' ∉ (toString n).toList := by
  rw [Nat.toString_eq_ofList_toDigits, String.toList_ofList]
  intro member
  exact absurd (Nat.isDigit_of_mem_toDigits (by decide) (by decide) member) (by decide)

theorem slash_not_mem_padded (width n : Nat) : '/' ∉ (padded width n).toList := by
  rw [padded, String.toList_append, List.mem_append, not_or]
  refine ⟨?_, slash_not_mem_digits n⟩
  have zeros (k : Nat) : '/' ∉ ("".pushn '0' k).toList := by
    induction k with
    | zero => decide
    | succ k ih =>
      change '/' ∉ (("".pushn '0' k).push '0').toList
      simp [ih]
  exact zeros _

theorem Date.unrooted_text (d : Date) : Unrooted d.text := by
  refine unrooted_of_not_mem ?_
  simp [Date.text, slash_not_mem_padded]

theorem Moment.unrooted_text (m : Moment) : Unrooted m.text := by
  have opens : m.date.text ≠ "" := by simp [Date.text]
  simp only [Moment.text, Moment.textWith, String.append_assoc]
  exact m.date.unrooted_text.append opens _

theorem slash_not_mem_place {digits : List Char} (none : '/' ∉ digits) (last : Int) :
    '/' ∉ Double.place digits last := by
  unfold Double.place
  simp only
  split
  · split
    · simp [none]
    · split
      · simp [none]
      · have before (n : Nat) : '/' ∉ digits.take n := fun member => none (List.mem_of_mem_take member)
        have after (n : Nat) : '/' ∉ digits.drop n := fun member => none (List.mem_of_mem_drop member)
        simp [before, after]
  · have power (n : Nat) : '/' ∉ (toString n).toList := slash_not_mem_digits n
    rw [List.mem_append, List.mem_cons, List.mem_cons, not_or, not_or, not_or]
    refine ⟨?_, by decide, ?_, ?_⟩
    · split
      · exact none
      · simp_all
      · simp
    · split <;> decide
    · split
      · exact fun member => power _ ((List.mem_cons.mp member).resolve_left (by decide))
      · exact power _

theorem Double.unrooted_text (d : Double) : Unrooted d.text := by
  cases d with
  | nan => decide
  | infinite negative => cases negative <;> decide
  | finite negative m e =>
    have body : '/' ∉ (if m = 0 then ['0', '.', '0']
        else Double.place (toString (Double.trimZeros 20 (Double.shortest m e)).1).toList
          (Double.trimZeros 20 (Double.shortest m e)).2) := by
      split
      · decide
      · exact slash_not_mem_place (slash_not_mem_digits _) _
    refine unrooted_of_not_mem ?_
    rw [Double.text, String.toList_ofList]
    cases negative
    · exact body
    · exact fun member => body ((List.mem_cons.mp member).resolve_left (by decide))

theorem unrooted_whole {i : Int} {s : String} (shown : Text.showWhole? i = some s) : Unrooted s := by
  simp only [Text.showWhole?, Option.ite_none_left_eq_some, Option.some.injEq] at shown
  obtain ⟨-, rfl⟩ := shown
  split
  · exact .append (by decide) (by decide) _
  · exact unrooted_of_not_mem (slash_not_mem_digits _)

namespace Value

theorem unrooted_bracketed {first : String} (opens : Unrooted first) (filled : first ≠ "") (last : String) (lone : Bool)
    (parts : List String) : Unrooted (bracketed first last lone parts) := by
  rw [bracketed, String.append_assoc, String.append_assoc]
  exact opens.append filled _

theorem unrooted_shape (shape : Shape) : Unrooted shape.text := by
  cases shape <;> decide

theorem unrooted_shown {v : Value} {s : String} (shown : v.display? = some s) (other : ∀ t, v ≠ .text t) :
    Unrooted s := by
  have inside (first last : String) (lone : Bool) {parts? : Option (List String)} (opens : Unrooted first)
      (filled : first ≠ "") (shown : parts?.map (bracketed first last lone) = some s) : Unrooted s := by
    obtain ⟨parts, -, rfl⟩ := Option.map_eq_some_iff.mp shown
    exact unrooted_bracketed opens filled last lone parts
  cases v with
  | text t => exact absurd rfl (other t)
  | null => cases shown; decide
  | bool b => cases shown; cases b <;> decide
  | int i => exact unrooted_whole shown
  | float d =>
    obtain rfl : d.text = s := Option.some.inj shown
    exact d.unrooted_text
  | bytes b =>
    obtain rfl : Text.quoteBytes b = s := Option.some.inj shown
    rw [Text.quoteBytes]
    exact unrooted_of_head String.toList_ofList (by decide)
  | date share d =>
    obtain rfl : d.text = s := Option.some.inj shown
    exact d.unrooted_text
  | moment share m =>
    obtain rfl : m.text = s := Option.some.inj shown
    exact m.unrooted_text
  | list share items =>
    simp only [display?, literal?, literalIn?] at shown
    split at shown
    · cases shown; exact unrooted_shape _
    · exact inside _ _ _ (by decide) (by decide) shown
  | tuple items => exact inside _ _ _ (by decide) (by decide) shown
  | map share entries =>
    simp only [display?, literal?, literalIn?] at shown
    split at shown
    · cases shown; exact unrooted_shape _
    · exact inside _ _ _ (by decide) (by decide) shown
  | set share items =>
    simp only [display?, literal?, literalIn?] at shown
    split at shown
    · cases shown; decide
    · exact inside _ _ _ (by decide) (by decide) shown
  | again number shape => cases shown; exact unrooted_shape shape
  | foreign => cases shown; decide

/-- Only a text is shown as an absolute path. -/
theorem text_of_shown {v : Value} {s : String} (shown : v.shown = .ok s) (absolute : Path.isAbsolute s = true) :
    v = .text s := by
  have displayed : v.display? = some s := by
    rw [Value.shown] at shown
    split at shown
    · next displayed => rw [displayed, Except.ok.inj shown]
    · cases shown
  by_contra other
  have unrooted : Unrooted s := unrooted_shown displayed fun t same => by
    subst same
    exact other (congrArg text (Option.some.inj displayed))
  rw [unrooted] at absolute
  cases absolute

end Value

namespace ResourceType.Exec

variable {r : Resource} {h h' : Host} {events : List Event}

/-! ## What a valid command resource holds -/

/-- What a command must satisfy, read off what it is checked for. -/
structure ValidExec (r : Resource) : Prop where
  command : ∃ line, commandOf r = .text line
  creates : createsOf r = .null ∨ ∃ path, createsOf r = .text path ∧ Path.isAbsolute path = true
  returns : ∃ statuses, returnsOf r = .ok statuses

theorem validExec (valid : ResourceType.exec.validate r = .ok ()) : ValidExec r := by
  obtain ⟨_, -, own⟩ := bind_eq_ok.mp valid
  have checked : validateExec r = .ok () := own
  have returns := returnsOf_of_valid checked
  simp only [validateExec] at checked
  split at checked
  · next line given =>
    refine ⟨⟨line, given⟩, ?_, returns⟩
    split at checked
    · cases checked
    · split at checked
      · next none => exact .inl none
      · obtain ⟨shown, same, checked⟩ := bind_eq_ok.mp checked
        split at checked
        · cases checked
        · next absolute =>
          have absolute : Path.isAbsolute shown = true := by simpa using absolute
          exact .inr ⟨shown, Value.text_of_shown same absolute, absolute⟩
  · cases checked

/-! ## The path that a command creates -/

/-- What the system says stands at the path that a command creates. -/
def createdAt (r : Resource) (h : Host) : Except Fault (Option Entry) :=
  match createsOf r with
  | .text path => h.standing true (Path.normal path)
  | _ => .ok none

theorem isCreated_result (valid : ValidExec r) (h : Host) :
    (isCreated r).result h = ((createdAt r h).map Option.isSome, h) := by
  rw [isCreated, createdAt]
  rcases valid.creates with none | ⟨path, text, absolute⟩
  · rw [none]
    rfl
  · have filled : path ≠ "" := by
      rintro rfl
      cases absolute
    rw [text]
    dsimp only
    rw [if_neg filled, Host.exists?, Host.ask_result]
    cases h.standing true (Path.normal path) with
    | error fault => rfl
    | ok found => cases found <;> rfl

/-! ## Courses -/

/-- What a command resource comes to where it is not needless. -/
inductive Course where
  /-- The guard succeeded. -/
  | held
  /-- The command would have been run. -/
  | announced
  /-- The system refused to start the guard or the command. -/
  | refused (errno : Errno)
  /-- The command ended. -/
  | ran (status : Int) (output : String)
  /-- The guard or the command was none, or what it printed was no text. -/
  | broken (fault : Fault)

/-- What the command itself comes to. -/
def Course.ofUpshot : Upshot → Course
  | .ended status output => .ran status output
  | .refused errno => .refused errno
  | .broken fault => .broken fault

/-- The command is announced or run. -/
def ownCourse (r : Resource) (noop : Bool) (h : Host) : Course × Host :=
  if noop then (.announced, h)
  else (.ofUpshot (h.upshot (commandFor r (commandOf r))).1, (h.upshot (commandFor r (commandOf r))).2)

/-- The guard is run first, if there is one, and the command only when it fails. -/
def course (r : Resource) (noop : Bool) (h : Host) : Course × Host :=
  match guardOf r with
  | .null => ownCourse r noop h
  | line => match h.upshot (commandFor r line) with
    | (.ended status _, after) => if status = 0 then (.held, after) else ownCourse r noop after
    | (.refused errno, after) => (.refused errno, after)
    | (.broken fault, after) => (.broken fault, after)

def Course.tell (r : Resource) : Course → Action Host (List Event)
  | .held => return []
  | .announced => do return ended .noop ("would have executed '" ++ (← commandText r) ++ "' (noop)")
  | .refused errno => do return ended .failure ("Could not execute '" ++ (← commandText r) ++ "': " ++ errno.text)
  | .ran status output => judge r status output
  | .broken fault => throw fault

theorem conclude_noRefusal {fault : Fault} (other : NoRefusal fault) : conclude r (.error fault) = throw fault := by
  cases fault with
  | system refusal => exact absurd rfl (other refusal)
  | _ => rfl

theorem noRefusal_commandFor (r : Resource) (line : Value) : Fails NoRefusal (commandFor r line) :=
  .bind (fails_wordsOf_of (by simp [NoRefusal]) (by simp [NoRefusal]) line) fun _ =>
    Host.fails_commandOf_of (by simp [NoRefusal]) (by simp [NoRefusal]) (by simp [NoRefusal]) (by simp [NoRefusal]) _

/-- The attempt to run a line goes on when the line has ended, and is concluded when it has not. -/
theorem conclude_run (r : Resource) (line : Value) (f : Int × String → Action Host (Except (List Event) (Int × String)))
    (h : Host) : ((run line ((r.param? "cwd").getD .null) >>= f).attempt >>= conclude r).result h =
      match h.upshot (commandFor r line) with
      | (.ended status output, after) => ((f (status, output)).attempt >>= conclude r).result after
      | (.refused errno, after) => ((Course.refused errno).tell r).result after
      | (.broken fault, after) => (.error fault, after) := by
  obtain ⟨program, ran⟩ := run_result r line h
  rw [Action.result_attempt_bind, ran]
  have other (fault : Fault) : (h.upshot (commandFor r line)).1 = .broken fault → NoRefusal fault :=
    Host.broken_of (by simp [NoRefusal]) (noRefusal_commandFor r line)
  generalize h.upshot (commandFor r line) = upshot at other
  obtain ⟨upshot, after⟩ := upshot
  cases upshot with
  | ended status output => rfl
  | refused errno => rfl
  | broken fault => exact congrArg (Action.result · after) (conclude_noRefusal (other _ rfl))

/-- What tells events, and is refused by no system, is concluded with them. -/
theorem conclude_told {a : Action Host (List Event)} (raises : Raises NoRefusal a) (h : Host) :
    ((do return .error (← a) : Action Host (Except (List Event) (Int × String))).attempt >>= conclude r).result h =
      a.result h := by
  rw [Action.result_attempt_bind]
  have other (fault : Fault) : (a.result h).1 = .error fault → NoRefusal fault := raises h fault
  generalize a.result h = told at other
  obtain ⟨outcome, after⟩ := told
  cases outcome with
  | ok events => rfl
  | error fault => exact congrArg (Action.result · after) (conclude_noRefusal (other _ rfl))

theorem raises_announced (r : Resource) : Raises NoRefusal (Course.announced.tell r) := by
  refine .bind (.ofExcept ?_) fun line => .pure _
  rw [Value.shown]
  split
  · exact .ok _
  · exact .error (by simp [NoRefusal])

theorem conclude_own (r : Resource) (noop : Bool) (h : Host) : ((do
      if noop then return .error (ended .noop ("would have executed '" ++ (← commandText r) ++ "' (noop)"))
      else return .ok (← run (commandOf r) ((r.param? "cwd").getD .null)) :
        Action Host (Except (List Event) (Int × String))).attempt >>= conclude r).result h =
      ((ownCourse r noop h).1.tell r).result (ownCourse r noop h).2 := by
  cases noop with
  | true =>
    have told := conclude_told (r := r) (raises_announced r) h
    rw [Course.tell, bind_assoc] at told
    exact told
  | false =>
    refine (conclude_run r (commandOf r) _ h).trans ?_
    rw [ownCourse, if_neg (by simp)]
    generalize h.upshot (commandFor r (commandOf r)) = upshot
    obtain ⟨upshot, after⟩ := upshot
    cases upshot <;> rfl

theorem isGuarded_of_ne (given : guardOf r ≠ .null) (directory : Value) : isGuarded r directory = (do
    let (status, _) ← run (guardOf r) directory
    return status = 0) := by
  rw [isGuarded]
  split
  · next none => exact absurd none given
  · rfl

theorem course_of_ne (given : guardOf r ≠ .null) (noop : Bool) (h : Host) :
    course r noop h = match h.upshot (commandFor r (guardOf r)) with
      | (.ended status _, after) => if status = 0 then (.held, after) else ownCourse r noop after
      | (.refused errno, after) => (.refused errno, after)
      | (.broken fault, after) => (.broken fault, after) := by
  rw [course]
  split
  · next none => exact absurd none given
  · rfl

/-- What is not needless takes its course. -/
theorem conclude_start (r : Resource) (noop : Bool) (h : Host) :
    ((start r noop).attempt >>= conclude r).result h = ((course r noop h).1.tell r).result (course r noop h).2 := by
  by_cases none : guardOf r = .null
  · have unguarded (directory : Value) : isGuarded r directory = pure false := by
      rw [isGuarded, ← guardOf, none]
    rw [start, unguarded, course, none]
    exact conclude_own r noop h
  · rw [start, isGuarded_of_ne none, course_of_ne none, bind_assoc, conclude_run]
    generalize h.upshot (commandFor r (guardOf r)) = upshot
    obtain ⟨upshot, after⟩ := upshot
    cases upshot with
    | ended status output =>
      by_cases held : status = 0
      · subst held
        rfl
      · simp only [pure_bind, decide_eq_true_eq, if_neg held]
        exact conclude_own r noop after
    | refused errno => rfl
    | broken fault => rfl

theorem apply_result (valid : ValidExec r) (noop : Bool) (h : Host) : (apply r noop).result h =
    match createdAt r h with
    | .error fault => (.error fault, h)
    | .ok (some _) => (.ok [], h)
    | .ok none => ((course r noop h).1.tell r).result (course r noop h).2 := by
  have looked := isCreated_result valid h
  rw [apply_eq]
  cases seen : createdAt r h with
  | error fault =>
    rw [seen] at looked
    exact Action.result_bind_of_error looked
  | ok found =>
    rw [seen] at looked
    rw [Action.result_bind_of_ok looked]
    cases found with
    | none => exact conclude_start r noop h
    | some entry => rfl

/-! ## What is told of a course -/

/-- The events that a course is told in, with their messages. -/
inductive Told (r : Resource) (accepted : List Int) : Course → List Event → Prop
  | held : Told r accepted .held []
  | announced {line : String} (shown : (commandOf r).shown = .ok line) :
      Told r accepted .announced [⟨"returns", .noop, "would have executed '" ++ line ++ "' (noop)"⟩]
  | refused {errno : Errno} {line : String} (shown : (commandOf r).shown = .ok line) :
      Told r accepted (.refused errno) [⟨"returns", .failure, "Could not execute '" ++ line ++ "': " ++ errno.text⟩]
  | success {status : Int} {output : String} (inside : status ∈ accepted) :
      Told r accepted (.ran status output) [⟨"returns", .success, "executed successfully"⟩]
  | failure {status : Int} {output line : String} {expected : List String} (outside : status ∉ accepted)
      (shown : (commandOf r).shown = .ok line)
      (listed : accepted.mapM (fun i => (Value.int i).shown) = .ok expected) :
      Told r accepted (.ran status output) [⟨"returns", .failure, "'" ++ line ++ "' returned " ++ toString status ++
        " instead of one of [" ++ ", ".intercalate expected ++ "]"⟩]

theorem commandText_ok_iff {line : String} :
    (commandText r).result h = (.ok line, h') ↔ (commandOf r).shown = .ok line ∧ h' = h := by
  rw [commandText, Action.result_ofExcept, Prod.mk.injEq, eq_comm (a := h)]

/-- An event that shows the command is made if the command is shown. -/
theorem ended_command_iff {outcome : Outcome} (message : String → String) :
    (do return ended outcome (message (← commandText r)) : Action Host (List Event)).result h = (.ok events, h') ↔
      ∃ line, (commandOf r).shown = .ok line ∧ events = [⟨"returns", outcome, message line⟩] ∧ h' = h := by
  rw [Action.result_bind_eq_ok]
  simp only [commandText_ok_iff, ended, Action.result_pure_eq_ok]
  constructor
  · rintro ⟨line, _, ⟨shown, rfl⟩, rfl, rfl⟩
    exact ⟨line, shown, rfl, rfl⟩
  · rintro ⟨line, shown, rfl, rfl⟩
    exact ⟨line, h', ⟨shown, rfl⟩, rfl, rfl⟩

/-- What a command printed is logged line by line. -/
theorem result_logs (lines : List String) (line : String → String) (h : Host) : ∃ after,
    (lines.forM fun text => (Action.log .debug (line text) : Action Host Unit)).result h = (.ok (), after) := by
  induction lines generalizing h with
  | nil => exact ⟨h, rfl⟩
  | cons text lines ih =>
    obtain ⟨after, logged⟩ := ih { h with console := h.console.log .debug (line text) }
    exact ⟨after, (Action.result_bind_of_ok rfl).trans logged⟩

theorem result_mapM_ofExcept {α β : Type} (f : α → Except Fault β) (l : List α) (h : Host) :
    (l.mapM fun a => (.ofExcept (f a) : Action Host β)).result h = (l.mapM f, h) := by
  induction l with
  | nil => rfl
  | cons a l ih =>
    rw [List.mapM_cons, List.mapM_cons]
    cases first : f a with
    | error fault => rfl
    | ok b =>
      rw [Action.result_bind_of_ok (Action.result_ofExcept _ h)]
      cases rest : l.mapM f with
      | error fault =>
        rw [rest] at ih
        exact Action.result_bind_of_error ih
      | ok bs =>
        rw [rest] at ih
        exact Action.result_bind_of_ok ih

/-- Whole numbers are shown one by one if and only if each of them is. -/
theorem mapM_shown_ok_iff (l : List Int) :
    (∃ texts, l.mapM (fun i => (Value.int i).shown) = .ok texts) ↔ ∀ i ∈ l, (Value.int i).IsShown := by
  induction l with
  | nil => exact ⟨fun _ => by simp, fun _ => ⟨[], rfl⟩⟩
  | cons i l ih =>
    simp only [List.forall_mem_cons, List.mapM_cons, bind_eq_ok, Value.isShown_iff] at ih ⊢
    constructor
    · rintro ⟨_, s, shown, texts, rest, -⟩
      exact ⟨⟨s, shown⟩, ih.mp ⟨texts, rest⟩⟩
    · rintro ⟨⟨s, shown⟩, rest⟩
      obtain ⟨texts, rest⟩ := ih.mpr rest
      exact ⟨_, s, shown, texts, rest, rfl⟩

theorem judge_ok_iff {accepted : List Int} (returns : returnsOf r = .ok accepted) (status : Int) (output : String)
    (h : Host) : ∃ after, ∀ events h', (judge r status output).result h = (.ok events, h') ↔
      Told r accepted (.ran status output) events ∧ h' = after := by
  obtain ⟨after, logged⟩ := result_logs (Text.splitLines output) (fun text => r.display ++ ": " ++ text) h
  refine ⟨after, fun events h' => ?_⟩
  have read : (Action.ofExcept (returnsOf r) : Action Host (List Int)).result after = (.ok accepted, after) := by
    rw [Action.result_ofExcept, returns]
  rw [judge, Action.result_bind_of_ok logged, Action.result_bind_of_ok read]
  split
  · next inside =>
    rw [List.contains_iff_mem] at inside
    rw [Action.result_pure_eq_ok]
    constructor
    · rintro ⟨rfl, rfl⟩
      exact ⟨.success inside, rfl⟩
    · rintro ⟨told, rfl⟩
      cases told with
      | success => exact ⟨rfl, rfl⟩
      | failure outside => exact absurd inside outside
  · next outside =>
    rw [List.contains_iff_mem] at outside
    rw [Action.result_bind_eq_ok, result_mapM_ofExcept]
    constructor
    · rintro ⟨expected, mid, listing, told⟩
      obtain ⟨listed, rfl⟩ := Prod.mk.inj listing
      obtain ⟨line, shown, rfl, rfl⟩ := (ended_command_iff (fun line => "'" ++ line ++ "' returned " ++
        toString status ++ " instead of one of [" ++ ", ".intercalate expected ++ "]")).mp told
      exact ⟨.failure outside shown listed, rfl⟩
    · rintro ⟨told, rfl⟩
      cases told with
      | success inside => exact absurd inside outside
      | @failure _ _ _ expected _ shown listed =>
        exact ⟨_, _, Prod.ext listed rfl, (ended_command_iff (fun line => "'" ++ line ++ "' returned " ++
          toString status ++ " instead of one of [" ++ ", ".intercalate expected ++ "]")).mpr ⟨_, shown, rfl, rfl⟩⟩

/-- What is told of a course, after what there is to log. -/
theorem tell_ok_iff {accepted : List Int} (returns : returnsOf r = .ok accepted) (c : Course) (h : Host) :
    ∃ after, ∀ events h', (c.tell r).result h = (.ok events, h') ↔ Told r accepted c events ∧ h' = after := by
  cases c with
  | ran status output => exact judge_ok_iff returns status output h
  | held =>
    refine ⟨h, fun events h' => Action.result_pure_eq_ok.trans ⟨?_, ?_⟩⟩
    · rintro ⟨rfl, rfl⟩
      exact ⟨.held, rfl⟩
    · rintro ⟨⟨⟩, rfl⟩
      exact ⟨rfl, rfl⟩
  | announced =>
    refine ⟨h, fun events h' => (ended_command_iff (fun line => "would have executed '" ++ line ++
      "' (noop)")).trans ⟨?_, ?_⟩⟩
    · rintro ⟨line, shown, rfl, rfl⟩
      exact ⟨.announced shown, rfl⟩
    · rintro ⟨⟨⟩, rfl⟩
      exact ⟨_, ‹_›, rfl, rfl⟩
  | refused errno =>
    refine ⟨h, fun events h' => (ended_command_iff (fun line => "Could not execute '" ++ line ++ "': " ++
      errno.text)).trans ⟨?_, ?_⟩⟩
    · rintro ⟨line, shown, rfl, rfl⟩
      exact ⟨.refused shown, rfl⟩
    · rintro ⟨⟨⟩, rfl⟩
      exact ⟨_, ‹_›, rfl, rfl⟩
  | broken fault =>
    refine ⟨h, fun events h' => ⟨fun returned => ?_, ?_⟩⟩
    · cases returned
    · rintro ⟨⟨⟩, -⟩

/-- A course cannot be told: nothing was run, or the message would show a number that is too long to be shown. -/
def Course.Untold (accepted : List Int) : Course → Prop
  | .held | .announced | .refused _ => False
  | .ran status _ => status ∉ accepted ∧ ¬ ∀ i ∈ accepted, (Value.int i).IsShown
  | .broken _ => True

theorem told_iff {line : String} (command : commandOf r = .text line) {accepted : List Int} {c : Course} :
    (∃ events, Told r accepted c events) ↔ ¬ c.Untold accepted := by
  have shown : (commandOf r).shown = .ok line := by
    rw [command]
    rfl
  cases c with
  | held => exact ⟨fun _ => id, fun _ => ⟨_, .held⟩⟩
  | announced => exact ⟨fun _ => id, fun _ => ⟨_, .announced shown⟩⟩
  | refused errno => exact ⟨fun _ => id, fun _ => ⟨_, .refused shown⟩⟩
  | ran status output =>
    rw [Course.Untold, not_and_not_right, ← mapM_shown_ok_iff]
    constructor
    · rintro ⟨_, told⟩ outside
      cases told with
      | success inside => exact absurd inside outside
      | failure _ _ listed => exact ⟨_, listed⟩
    · intro listed
      by_cases inside : status ∈ accepted
      · exact ⟨_, .success inside⟩
      · obtain ⟨expected, listed⟩ := listed inside
        exact ⟨_, .failure inside shown listed⟩
  | broken fault =>
    refine ⟨?_, fun told => absurd trivial told⟩
    rintro ⟨_, ⟨⟩⟩

/-- Telling starts nothing. -/
theorem asked_tell (c : Course) (h : Host) : ((c.tell r).result h).2.asked = h.asked := by
  have line : Leaves OnlyLogged (commandText r) := .ofExcept _
  have logged : Leaves OnlyLogged (c.tell r) := by
    cases c with
    | held => exact .pure _
    | announced | refused errno => exact .bind line fun _ => .pure _
    | broken fault => exact .throw fault
    | ran status output =>
      refine .bind (.forM _ fun _ _ => OnlyLogged.log _ _) fun _ => .bind (.ofExcept _) fun accepted => ?_
      refine .ite (.pure _) (.bind (fun s => ?_) fun _ => .bind line fun _ => .pure _)
      rw [result_mapM_ofExcept]
      exact Std.Refl.refl s
  obtain ⟨_, _, same⟩ := logged h
  rw [same]
  rfl

/-! ## Commands that only the system decides on -/

/-- What a guard, if there is one, says of the command after it. -/
inductive Answer where
  | held
  | unstarted
  | passed
deriving DecidableEq

/-- A guard holds the command back when it ends with 0, and lets it pass when it ends with another status. -/
def answerOf (h : Host) : Option Command → Answer
  | none => .passed
  | some guard => match (h.launched guard).1 with
    | .refused _ => .unstarted
    | .ended status _ => if status = 0 then .held else .passed

def afterGuard (h : Host) (guard : Option Command) : Host := guard.elim h fun g => (h.launched g).2

/-- A launch ends with a status that counts as success. -/
def Succeeds (accepted : List Int) : Launch → Prop
  | .refused _ => False
  | .ended status _ => status ∈ accepted

/-- The path that a command creates exists. -/
def Created (r : Resource) (h : Host) : Prop := ∃ entry, createdAt r h = .ok (some entry)

def PrintsText (launcher : Launcher) : Prop := ∀ asked c files status output,
  (launcher asked c files).1 = .ended status output → ∃ text, Host.outputText output = .ok text

/-- The command itself is run. -/
def Runs (r : Resource) (h : Host) (guard : Option Command) (noop : Bool) : Prop :=
  ¬ Created r h ∧ answerOf h guard = .passed ∧ noop = false

/-- Only the system decides what a command resource comes to: the question about its path has an answer, what is started
are commands, and what they print is text. -/
structure Ready (r : Resource) (h : Host) (guard : Option Command) (command : Command) (noop : Bool) : Prop where
  answered : ∃ found, createdAt r h = .ok found
  guarded : ¬ Created r h → guardOf r = .null ∧ guard = none ∨
    guardOf r ≠ .null ∧ ∃ g, guard = some g ∧ commandFor r (guardOf r) = .ok g
  command : Runs r h guard noop → commandFor r (commandOf r) = .ok command
  prints : PrintsText h.launcher

/-- What is to be told can be told: the accepted statuses are shown when that of the command is none of them. -/
def Tellable (r : Resource) (h : Host) (guard : Option Command) (command : Command) (noop : Bool)
    (accepted : List Int) : Prop :=
  Runs r h guard noop → ∀ status output, ((afterGuard h guard).launched command).1 = .ended status output →
    status ∉ accepted → ∀ i ∈ accepted, (Value.int i).IsShown

/-- The course that a command takes after the answer of its guard, when what commands print is text. -/
inductive Takes (noop : Bool) (launch : Launch) : Answer → Course → Prop
  | held : Takes noop launch .held .held
  | unstarted {errno : Errno} : Takes noop launch .unstarted (.refused errno)
  | announced (dry : noop = true) : Takes noop launch .passed .announced
  | refused {errno : Errno} (earnest : noop = false) (launched : launch = .refused errno) :
      Takes noop launch .passed (.refused errno)
  | ran {status : Int} {output : ByteArray} {text : String} (earnest : noop = false)
      (launched : launch = .ended status output) : Takes noop launch .passed (.ran status text)

/-- The only event of a course, if there is any, by the answer of the guard and the launch of the command. -/
theorem Takes.told {noop : Bool} {launch : Launch} {answer : Answer} {c : Course} {accepted : List Int}
    (takes : Takes noop launch answer c) (told : Told r accepted c events) :
    (events = [] ↔ answer = .held) ∧
    (events ≠ [] → ∃ e, events = [e] ∧ e.property = "returns" ∧
      (e.outcome = .noop ↔ noop = true ∧ answer = .passed) ∧
      (e.outcome = .failure ↔ answer = .unstarted ∨ (answer = .passed ∧ noop = false) ∧ ¬ Succeeds accepted launch) ∧
      (e.outcome = .success ↔ (answer = .passed ∧ noop = false) ∧ Succeeds accepted launch)) := by
  cases takes with
  | held =>
    cases told
    simp
  | unstarted =>
    cases told
    simp
  | announced dry =>
    cases told
    simp [dry]
  | refused earnest launched =>
    cases told
    simp [earnest, launched, Succeeds]
  | ran earnest launched =>
    cases told with
    | success inside => simp [earnest, launched, Succeeds, inside]
    | failure outside => simp [earnest, launched, Succeeds, outside]

theorem Takes.not_untold {noop : Bool} {launch : Launch} {answer : Answer} {c : Course} {accepted : List Int}
    (takes : Takes noop launch answer c)
    (statuses : answer = .passed ∧ noop = false → ∀ status output, launch = .ended status output → status ∉ accepted →
      ∀ i ∈ accepted, (Value.int i).IsShown) : ¬ c.Untold accepted := by
  cases takes with
  | held | unstarted | announced | refused => exact id
  | ran earnest launched =>
    rintro ⟨outside, unshown⟩
    exact unshown (statuses ⟨rfl, earnest⟩ _ _ launched outside)

/-- What a command comes to when it prints text. -/
theorem upshot_launched (prints : PrintsText h.launcher) (c : Command) :
    (∃ errno, (h.launched c).1 = .refused errno ∧ h.upshot (.ok c) = (.refused errno, (h.launched c).2)) ∨
    ∃ status output text, (h.launched c).1 = .ended status output ∧
      h.upshot (.ok c) = (.ended status text, (h.launched c).2) := by
  rw [Host.upshot]
  cases launched : (h.launched c).1 with
  | refused errno => exact .inl ⟨errno, rfl, rfl⟩
  | ended status output =>
    obtain ⟨text, read⟩ := prints _ _ _ _ _ launched
    refine .inr ⟨status, output, text, rfl, ?_⟩
    rw [Launch.upshot, read]

theorem takes_ownCourse {command : Command} {noop : Bool}
    (made : noop = false → commandFor r (commandOf r) = .ok command) (prints : PrintsText h.launcher) :
    Takes noop (h.launched command).1 .passed (ownCourse r noop h).1 ∧
      (ownCourse r noop h).2.asked = (if noop = false then [command] else []) ++ h.asked := by
  cases noop with
  | true => exact ⟨.announced rfl, rfl⟩
  | false =>
    rw [ownCourse, if_neg (by simp), made rfl]
    rcases upshot_launched prints command with ⟨errno, launched, upshot⟩ | ⟨status, output, text, launched, upshot⟩
    · rw [upshot]
      exact ⟨.refused rfl launched, rfl⟩
    · rw [upshot]
      exact ⟨.ran rfl launched, rfl⟩

theorem takes_course {guard : Option Command} {command : Command} {noop : Bool} (ready : Ready r h guard command noop)
    (needed : ¬ Created r h) :
    Takes noop ((afterGuard h guard).launched command).1 (answerOf h guard) (course r noop h).1 ∧
      (course r noop h).2.asked =
        (if answerOf h guard = .passed ∧ noop = false then [command] else []) ++ guard.toList ++ h.asked := by
  have made (passed : answerOf h guard = .passed) (earnest : noop = false) :=
    ready.command ⟨needed, passed, earnest⟩
  rcases ready.guarded needed with ⟨none, rfl⟩ | ⟨given, g, rfl, found⟩
  · obtain ⟨takes, asked⟩ := takes_ownCourse (made rfl) ready.prints
    rw [course, none]
    exact ⟨takes, asked.trans (by simp [answerOf])⟩
  · rw [course_of_ne given, found]
    rcases upshot_launched ready.prints g with ⟨errno, launched, upshot⟩ | ⟨status, output, text, launched, upshot⟩
    · rw [upshot]
      simp only [answerOf, launched]
      exact ⟨.unstarted, by simp [Host.launched]⟩
    · rw [upshot]
      simp only [answerOf, launched] at made ⊢
      by_cases held : status = 0
      · simp only [held, if_true]
        exact ⟨.held, by simp [Host.launched]⟩
      · simp only [held, if_false, forall_const] at made ⊢
        obtain ⟨takes, asked⟩ := takes_ownCourse (h := (h.launched g).2) made ready.prints
        exact ⟨takes, asked.trans (by simp [Host.launched])⟩

/-- The guard of a command resource that is ready is run once if the command is not needless, and the command itself
once after it if the guard lets it pass and this is no dry run; the only event tells what that comes to, if the accepted
statuses that it would show can be told. -/
theorem apply_started {guard : Option Command} {command : Command} {noop : Bool}
    (valid : ResourceType.exec.validate r = .ok ()) (ready : Ready r h guard command noop) : ∃ accepted before own,
      returnsOf r = .ok accepted ∧
      ((ResourceType.exec.apply r noop).result h).2.asked = own ++ before ++ h.asked ∧
      (¬ Created r h → before = guard.toList) ∧ (Created r h → before = []) ∧
      (Runs r h guard noop → own = [command]) ∧ (¬ Runs r h guard noop → own = []) ∧
      (Tellable r h guard command noop accepted → ∃ events h',
        (ResourceType.exec.apply r noop).result h = (.ok events, h') ∧
        (events = [] ↔ Created r h ∨ answerOf h guard = .held) ∧
        (events ≠ [] → ∃ e, events = [e] ∧ e.property = "returns" ∧
          (e.outcome = .noop ↔ noop = true ∧ answerOf h guard = .passed) ∧
          (e.outcome = .failure ↔ answerOf h guard = .unstarted ∨
            Runs r h guard noop ∧ ¬ Succeeds accepted ((afterGuard h guard).launched command).1) ∧
          (e.outcome = .success ↔
            Runs r h guard noop ∧ Succeeds accepted ((afterGuard h guard).launched command).1))) := by
  have valid := validExec valid
  obtain ⟨accepted, returns⟩ := valid.returns
  have applied := apply_result valid noop h
  obtain ⟨found, seen⟩ := ready.answered
  rw [seen] at applied
  cases found with
  | some entry =>
    have created : Created r h := ⟨entry, seen⟩
    exact ⟨accepted, [], [], returns, congrArg (Host.asked ·.2) applied, by simp [created], by simp,
      by simp [Runs, created], by simp, fun _ => ⟨[], h, applied, by simp [created], by simp⟩⟩
  | none =>
    have needed : ¬ Created r h := by simp [Created, seen]
    have runs : Runs r h guard noop ↔ answerOf h guard = .passed ∧ noop = false := and_iff_right needed
    obtain ⟨takes, asked⟩ := takes_course ready needed
    have started := (congrArg (Host.asked ·.2) applied).trans ((asked_tell _ _).trans asked)
    refine ⟨accepted, guard.toList, if answerOf h guard = .passed ∧ noop = false then [command] else [], returns,
      started, by simp, by simp [needed], fun runs => if_pos runs.2, fun stays => if_neg (stays ∘ runs.mpr),
      fun tellable => ?_⟩
    obtain ⟨after, returned⟩ := tell_ok_iff returns (course r noop h).1 (course r noop h).2
    obtain ⟨line, command⟩ := valid.command
    rw [Tellable, runs] at tellable
    obtain ⟨events, told⟩ := (told_iff command).mpr (takes.not_untold tellable)
    refine ⟨events, after, applied.trans ((returned _ _).mpr ⟨told, rfl⟩), ?_⟩
    simpa only [runs, needed, false_or] using takes.told told

/-- A host without files, on which the first command that is started ends with 1, the next with 2, and so on. -/
def counting : Host := { Host.bare with
  files := ⟨[([], .directory 0o755)], 0o022⟩
  launcher := fun asked _ files => (.ended (asked.length + 1) "x".toUTF8, files) }

/-- A command with a path that it creates, a guard and statuses. -/
def guardedCommand : Resource := ⟨{ type := "exec", name := "/bin/make all" }, Table.ofList [("creates", .text "/all"),
  ("unless", .text "/bin/make -q all"), ("returns", .list none [.int 0, .text "2"])]⟩

theorem apply_started_guardedCommand : ResourceType.exec.validate guardedCommand = .ok () ∧
    ∃ guard command, Ready guardedCommand counting (some guard) command false ∧
      Tellable guardedCommand counting (some guard) command false [0, 2] ∧ ∃ e h',
        (ResourceType.exec.apply guardedCommand false).result counting = (.ok [e], h') ∧
        h'.asked = [command, guard] ∧ e.outcome = .success := by
  have valid : ResourceType.exec.validate guardedCommand = .ok () := eq_ok_of_toOption (by decide +kernel)
  obtain ⟨guard, made⟩ := Option.isSome_iff_exists.mp
    (by decide +kernel : (commandFor guardedCommand (guardOf guardedCommand)).toOption.isSome = true)
  obtain ⟨command, own⟩ := Option.isSome_iff_exists.mp
    (by decide +kernel : (commandFor guardedCommand (commandOf guardedCommand)).toOption.isSome = true)
  have accepted : returnsOf guardedCommand = .ok [0, 2] := eq_ok_of_toOption (by decide +kernel)
  have ready : Ready guardedCommand counting (some guard) command false := by
    refine ⟨⟨none, rfl⟩, fun _ => .inr ⟨?_, guard, rfl, eq_ok_of_toOption made⟩, fun _ => eq_ok_of_toOption own, ?_⟩
    · rintro ⟨⟩
    · rintro asked c files status output ⟨⟩
      exact ⟨_, by rw [Host.outputText, Text.decode_toUTF8]⟩
  have succeeds : Succeeds [0, 2] ((afterGuard counting (some guard)).launched command).1 := by
    change (2 : Int) ∈ [0, 2]
    simp
  have nothing : createdAt guardedCommand counting = .ok none := rfl
  have needed : ¬ Created guardedCommand counting := by simp [Created, nothing]
  have runs : Runs guardedCommand counting (some guard) false := ⟨needed, rfl, rfl⟩
  have tellable : Tellable guardedCommand counting (some guard) command false [0, 2] := by
    intro _ status output launched outside
    rw [launched] at succeeds
    exact absurd succeeds outside
  obtain ⟨given, before, last, returns, asked, guarded, -, ran, -, tells⟩ := apply_started valid ready
  rw [accepted, Except.ok.injEq] at returns
  subst returns
  obtain ⟨events, h', run, none, told⟩ := tells tellable
  obtain ⟨e, rfl, -, -, -, success⟩ := told fun empty => by simpa [needed, runs.2.1] using none.mp empty
  rw [run, guarded needed, ran runs] at asked
  exact ⟨valid, guard, command, ready, tellable, e, h', run, asked, success.mpr ⟨runs, succeeds⟩⟩

/-! ## Commands that are stopped -/

/-- A name that is longer than the system takes. -/
structure TooLong (name : String) : Prop where
  inside : '/' ∉ name.toList
  long : FileSystem.maxName < name.utf8ByteSize
  short : ("/" ++ name).utf8ByteSize < FileSystem.maxPath
  taken : Host.checkPath ("/" ++ name) = .ok ()

namespace TooLong

variable {name : String}

theorem ne {other : String} (tooLong : TooLong name) (short : other.utf8ByteSize ≤ FileSystem.maxName) :
    name ≠ other := by
  rintro rfl
  exact absurd tooLong.long (Nat.not_lt.mpr short)

theorem resolve (tooLong : TooLong name) {fs : FileSystem} {mode : Nat} (top : fs.get? [] = some (.directory mode))
    (cwd : Place) {purpose : FileSystem.Purpose} (other : purpose ≠ .file) :
    fs.resolve cwd purpose ("/" ++ name) = .error .nameTooLong := by
  rw [FileSystem.resolve, if_neg (by simp), if_neg (Nat.not_le.mpr tooLong.short), if_pos (Path.isAbsolute_name name),
    FileSystem.steps_name tooLong.inside (tooLong.ne (by decide)) (tooLong.ne (by decide)), FileSystem.maxLinks,
    FileSystem.walk.eq_def]
  simp only [FileSystem.walkAlong, top]
  rw [if_neg (by simp [tooLong.ne (by decide : ".".utf8ByteSize ≤ _), tooLong.ne (by decide : "".utf8ByteSize ≤ _)]),
    if_neg (tooLong.ne (by decide)), if_neg (by simp [other]), if_pos tooLong.long]

/-- The question whether something of the name exists has no answer. -/
theorem standing (tooLong : TooLong name) {mode : Nat} (top : h.files.get? [] = some (.directory mode))
    (follow : Bool) : h.standing follow ("/" ++ name) = .error (.system ⟨.nameTooLong, "/" ++ name⟩) := by
  have other : (if follow then FileSystem.Purpose.target else .itself) ≠ .file := by cases follow <;> simp
  rw [Host.standing, tooLong.taken, FileSystem.stat, tooLong.resolve top h.cwd other]

end TooLong

/-- A command is stopped, before anything is started, by too long a name of what it creates. -/
theorem apply_tooLong {name : String} (valid : ValidExec r) (tooLong : TooLong name)
    (creates : createsOf r = .text ("/" ++ name)) {mode : Nat} (top : h.files.get? [] = some (.directory mode))
    (noop : Bool) : (apply r noop).result h = (.error (.system ⟨.nameTooLong, "/" ++ name⟩), h) := by
  have same := Path.normal_name tooLong.inside (tooLong.ne (by decide)) (tooLong.ne (by decide))
  rw [apply_result valid, createdAt, creates]
  dsimp only
  rw [same, tooLong.standing top]

def longName : String := String.ofList (List.replicate 256 'a')

theorem tooLong_longName : TooLong longName := by
  have chars : longName.toList = List.replicate 256 'a' := String.toList_ofList
  have plain : Text.Plain ("/" ++ longName) := by
    refine Text.Plain.append (by decide) ?_
    rw [Text.Plain, chars]
    exact .replicate 256 (by decide)
  have lacks {c : Char} (other : c ≠ 'a') : c ∉ longName.toList := by
    rw [chars]
    exact fun member => other (List.eq_of_mem_replicate member)
  refine ⟨lacks (by decide), by decide +kernel, by decide +kernel, ?_⟩
  rw [Host.checkPath, Text.encodeRaw_of_plain plain]
  simp [lacks (by decide : '\x00' ≠ 'a')]

/-- A command that creates what has too long a name. -/
def longNamed : Resource :=
  ⟨{ type := "exec", name := "/bin/true" }, Table.ofList [("creates", .text ("/" ++ longName))]⟩

theorem validate_longNamed : ResourceType.exec.validate longNamed = .ok () := by
  have common : ResourceType.exec.validateCommon longNamed = .ok () := eq_ok_of_toOption (by decide +kernel)
  have statuses : returnsOf longNamed = .ok [0] := eq_ok_of_toOption (by decide +kernel)
  refine bind_eq_ok.mpr ⟨(), common, ?_⟩
  have creates : createsOf longNamed = .text ("/" ++ longName) := rfl
  have line : commandOf longNamed = .text "/bin/true" := rfl
  have filled : Text.strip "/bin/true" ≠ "" := by decide +kernel
  have shown : (Value.text ("/" ++ longName)).shown = .ok ("/" ++ longName) := rfl
  simp [validateExec, line, filled, creates, shown, Path.isAbsolute_name, statuses, bind_eq_ok]

/-- A command with a character that no command can have. -/
def nulCommand : Resource :=
  ⟨{ type := "exec", name := "/bin/true" }, Table.ofList [("command", .text "/bin/true \x00")]⟩

/-- A resource is valid, has no guard and has words, but no event is told of it: a fault stops it before anything is
started. -/
structure Stopped (r : Resource) (noop : Bool) (h : Host) : Prop where
  valid : ResourceType.exec.validate r = .ok ()
  unguarded : r.param? "unless" = none
  worded : ∃ words, wordsOf (commandOf r) = .ok words ∧ words ≠ []
  stopped : ∃ fault h', (ResourceType.exec.apply r noop).result h = (.error fault, h') ∧ h'.asked = h.asked

theorem worded_of (filled : (wordsOf (commandOf r)).toOption.map List.isEmpty = some false) :
    ∃ words, wordsOf (commandOf r) = .ok words ∧ words ≠ [] := by
  obtain ⟨words, split, filled⟩ := Option.map_eq_some_iff.mp filled
  refine ⟨words, eq_ok_of_toOption split, ?_⟩
  rintro rfl
  cases filled

theorem stopped_of {noop : Bool} (valid : (ResourceType.exec.validate r).toOption = some ())
    (unguarded : (r.param? "unless").isNone = true)
    (filled : (wordsOf (commandOf r)).toOption.map List.isEmpty = some false)
    (stopped : ((ResourceType.exec.apply r noop).result h).1.toOption = none)
    (unasked : h.asked = []) (asked : ((ResourceType.exec.apply r noop).result h).2.asked.length = 0) :
    Stopped r noop h := by
  refine ⟨eq_ok_of_toOption valid, Option.isNone_iff_eq_none.mp unguarded, worded_of filled, ?_⟩
  cases run : (ResourceType.exec.apply r noop).result h with
  | mk outcome after =>
    rw [run] at stopped asked
    cases outcome with
    | ok events => cases stopped
    | error fault => exact ⟨fault, after, rfl, (List.length_eq_zero_iff.mp asked).trans unasked.symm⟩

/-- No event tells that the name is too long or that the character cannot be passed. -/
theorem apply_unready : Stopped longNamed false counting ∧ Stopped nulCommand false counting := by
  refine ⟨⟨validate_longNamed, rfl, worded_of (by decide +kernel), _, _,
    apply_tooLong (validExec validate_longNamed) tooLong_longName rfl rfl false, rfl⟩, ?_⟩
  exact stopped_of (by decide +kernel) (by decide +kernel) (by decide +kernel) (by decide +kernel) rfl
    (by decide +kernel)

end ResourceType.Exec

end Converge
