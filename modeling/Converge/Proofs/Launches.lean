import Converge.Proofs.Actions
import Converge.ResourceType.Exec

/-!
# What commands come to

A command is refused by the system, or it ends with a status and what it printed; afterwards the host has the files
that the command left, and has been asked for it (`launched`). What running some words comes to is told by this alone
(`run_result`): a status with a text, a refusal, or a fault of its own when the words are no command or when what was
printed is no text.
-/

namespace Converge

/-- An attempt goes on after its first part, or is answered where that stops. -/
theorem Action.result_attempt_bind {σ α β γ : Type} (a : Action σ α) (f : α → Action σ β)
    (k : Except Fault β → Action σ γ) (s : σ) : ((a >>= f).attempt >>= k).result s = match a.result s with
      | (.ok x, mid) => ((f x).attempt >>= k).result mid
      | (.error fault, mid) => (k (.error fault)).result mid := by
  rw [result_bind_of_ok (result_attempt _ s), result_bind]
  cases a.result s with
  | mk outcome mid =>
    cases outcome with
    | error fault => rfl
    | ok x => exact (result_bind_of_ok (result_attempt (f x) mid)).symm

def NoRefusal (fault : Fault) : Prop := ∀ refusal, fault ≠ .system refusal

/-- What running some words comes to. -/
inductive Upshot where
  | ended (status : Int) (output : String)
  | refused (errno : Errno)
  /-- The words are no command, or what the command printed is no text. -/
  | broken (fault : Fault)

/-- What it comes to as a result: a refusal names the program. -/
def Upshot.result (program : String) : Upshot → Except Fault (Int × String)
  | .ended status output => .ok (status, output)
  | .refused errno => .error (.system ⟨errno, program⟩)
  | .broken fault => .error fault

/-- What a launch comes to when what was printed is read. -/
def Launch.upshot : Launch → Upshot
  | .refused errno => .refused errno
  | .ended status output =>
    match Host.outputText output with
    | .ok text => .ended status text
    | .error fault => .broken fault

namespace Host

/-- What the system makes of a command, and the host afterwards. -/
def launched (h : Host) (c : Command) : Launch × Host :=
  ((h.launcher h.asked c h.files).1, { h with files := (h.launcher h.asked c h.files).2, asked := c :: h.asked })

/-- What a command comes to, if there is one, and the host afterwards. -/
def upshot (h : Host) : Except Fault Command → Upshot × Host
  | .ok c => ((h.launched c).1.upshot, (h.launched c).2)
  | .error fault => (.broken fault, h)

def programOf (words : List Value) : String := ((words.headD .null).display?).getD ""

theorem run_result (words : List Value) (directory : Value) (h : Host) :
    (run words directory).result h = ((h.upshot (commandOf words directory)).1.result (programOf words),
      (h.upshot (commandOf words directory)).2) := by
  cases made : commandOf words directory with
  | error fault =>
    have refused : (Action.ofExcept (commandOf words directory) : Action Host Command).result h =
        (.error fault, h) := by
      rw [Action.result_ofExcept, made]
    exact Action.result_bind_of_error refused
  | ok c =>
    have there : (Action.ofExcept (commandOf words directory) : Action Host Command).result h = (.ok c, h) := by
      rw [Action.result_ofExcept, made]
    have started : (launch c).result h = (.ok (h.launched c).1, (h.launched c).2) := rfl
    rw [run, Action.result_bind_of_ok there, Action.result_bind_of_ok started, upshot]
    cases (h.launched c).1 with
    | refused errno => rfl
    | ended status output =>
      dsimp only [Launch.upshot]
      cases outputText output <;> rfl

/-- What is on the console has no part in what a command comes to. -/
theorem upshot_console (h : Host) (console : Console) (made : Except Fault Command) :
    ({ h with console } : Host).upshot made = ((h.upshot made).1, { (h.upshot made).2 with console }) := by
  cases made <;> rfl

/-- The words of a command are those that are given before the last one, and the last one as it is given. -/
theorem commandOf_snoc {words : List Value} {last : Value} {c : Command}
    (made : commandOf (words ++ [last]) .null = .ok c) :
    ∃ first word, words.mapM wholeWord = .ok first ∧ wholeWord last = .ok word ∧ c = ⟨first ++ [word], none⟩ := by
  obtain ⟨all, each, rfl⟩ : ∃ all, (words ++ [last]).mapM wholeWord = .ok all ∧ c = ⟨all, none⟩ := by
    cases words with
    | nil =>
      obtain ⟨_, -, made⟩ := bind_eq_ok.mp made
      obtain ⟨all, each, made⟩ := bind_eq_ok.mp made
      exact ⟨all, each, (Except.ok.inj made).symm⟩
    | cons program arguments =>
      obtain ⟨_, -, made⟩ := bind_eq_ok.mp made
      obtain ⟨all, each, made⟩ := bind_eq_ok.mp made
      exact ⟨all, each, (Except.ok.inj made).symm⟩
  simp only [List.mapM_append, List.mapM_cons, List.mapM_nil, bind_eq_ok] at each
  obtain ⟨first, before, row, ⟨word, here, _, nothing, same⟩, whole⟩ := each
  cases nothing
  cases same
  cases whole
  exact ⟨first, word, before, here, rfl⟩

/-! ## Faults -/

variable {P : Fault → Prop}

theorem fails_wordOf_of (encoding : ∀ fault, P (.encoding fault))
    (value : ∀ v : Value, P (.misuse (.pathFromValue v.typeName))) (v : Value) : Fails P (wordOf v) := by
  unfold wordOf
  split
  · exact .mapError fun fault _ => encoding fault
  · exact .ok _
  · exact .error (value _)

/-- Words are no command for one of few reasons. -/
theorem fails_commandOf_of (encoding : ∀ fault, P (.encoding fault))
    (value : ∀ v : Value, P (.misuse (.pathFromValue v.typeName))) (nul : P .nul) {words : List Value}
    (none : words = [] → P .noWords) (directory : Value) : Fails P (commandOf words directory) := by
  have word (v : Value) : Fails P (wordOf v) := fails_wordOf_of encoding value v
  have whole (v : Value) : Fails P (wholeWord v) := .bind (word v) fun _ => .ite (.error nul) (.ok _)
  have place : Fails P (directoryOf directory) := by
    unfold directoryOf
    split
    · exact .ok _
    · refine .bind (whole _) fun bytes => ?_
      split <;> exact .ok _
  cases words with
  | nil => exact .error (none rfl)
  | cons first rest => exact .bind (word first) fun _ => .bind (.mapM _ whole) fun _ => .bind place fun _ => .ok _

theorem fails_outputText_of (decoding : ∀ fault, P (.decoding fault)) (output : ByteArray) :
    Fails P (outputText output) := by
  rw [outputText]
  split
  · exact .ok _
  · exact .error (decoding _)

end Host

/-- What breaks is of a kind when the reasons for it are. -/
theorem Launch.broken_of {P : Fault → Prop} (decoding : ∀ fault, P (.decoding fault)) {launch : Launch} {fault : Fault}
    (broken : launch.upshot = .broken fault) : P fault := by
  cases launch with
  | refused errno => cases broken
  | ended status output =>
    rw [upshot] at broken
    split at broken
    · cases broken
    · next read =>
      cases broken
      exact Host.fails_outputText_of decoding output fault read

theorem Host.broken_of {P : Fault → Prop} (decoding : ∀ fault, P (.decoding fault)) {h : Host}
    {made : Except Fault Command} (fails : Fails P made) {fault : Fault} (broken : (h.upshot made).1 = .broken fault) :
    P fault := by
  cases made with
  | error other =>
    cases broken
    exact fails _ rfl
  | ok c => exact Launch.broken_of decoding broken

/-! ## Command resources -/

namespace ResourceType.Exec

/-- The command that a line makes in the directory of a resource, if it makes one. -/
def commandFor (r : Resource) (line : Value) : Except Fault Command := do
  Host.commandOf (← wordsOf line) ((r.param? "cwd").getD .null)

theorem fails_wordsOf_of {P : Fault → Prop} (words : ∀ fault, P (.words fault))
    (value : ∀ v : Value, P (.misuse (.noOperation v.fullTypeName "read"))) (line : Value) :
    Fails P (wordsOf line) := by
  unfold wordsOf
  split
  · split
    · exact .ok _
    · exact .error (words _)
  · exact .error (value _)

def guardOf (r : Resource) : Value := (r.param? "unless").getD .null

/-- Running a line is starting the command that it makes. -/
theorem run_result (r : Resource) (line : Value) (h : Host) : ∃ program,
    (run line ((r.param? "cwd").getD .null)).result h =
      ((h.upshot (commandFor r line)).1.result program, (h.upshot (commandFor r line)).2) := by
  cases split : wordsOf line with
  | error fault =>
    refine ⟨"", ?_⟩
    have stopped : (Action.ofExcept (wordsOf line) : Action Host (List Value)).result h = (.error fault, h) := by
      rw [Action.result_ofExcept, split]
    rw [run, Action.result_bind_of_error stopped, commandFor, split]
    rfl
  | ok words =>
    refine ⟨Host.programOf words, ?_⟩
    have done : (Action.ofExcept (wordsOf line) : Action Host (List Value)).result h = (.ok words, h) := by
      rw [Action.result_ofExcept, split]
    rw [run, Action.result_bind_of_ok done, Host.run_result, commandFor, split]
    rfl

/-- What is made of the attempt to start a command. -/
def conclude (r : Resource) (attempt : Except Fault (Except (List Event) (Int × String))) :
    Action Host (List Event) := do
  match attempt with
  | .ok (.error events) => return events
  | .ok (.ok (status, output)) => judge r status output
  | .error (.system fault) =>
    return ended .failure ("Could not execute '" ++ (← commandText r) ++ "': " ++ fault.errno.text)
  | .error fault => throw fault

theorem apply_eq (r : Resource) (noop : Bool) : apply r noop = (do
    if ← isCreated r then return [] else conclude r (← (start r noop).attempt)) := rfl

end ResourceType.Exec

end Converge
