import Converge.Proofs.Delegations
import Converge.Proofs.Local

/-!
# Handing over

A delegate answers whatever becomes of the command to which it hands a resource or a block: with a failure that has a
message if the resource cannot be written as code or if the runner reports another status than 0 (`calls_return`). What
is reported is shown first, and it may name the program. A console that becomes bytes does not take every name, and then
there is no answer, also when all that is wrong is that there is no such program (`applyBlock_unnamed`).
-/

namespace Converge

open Text

namespace Delegate

variable {d : Delegate} {code : Value}

/-! ## What there is to show -/

/-- What is reported of some code can be shown: it is empty, or the console takes it. -/
def CanShow (d : Delegate) (code : Value) (h : Host) : Prop :=
  (d.report (h.upshot (d.command code)).1).2 = "" ∨
    Console.takes h.console.asBytes (stripLineFeeds (d.report (h.upshot (d.command code)).1).2) = .ok ()

/-- Only texts with surrogates are not shown, and those only where they become bytes. -/
theorem canShow_of_plain {h : Host} (plain : h.console.asBytes = true → Plain (d.report (h.upshot (d.command code)).1).2) :
    d.CanShow code h := by
  by_cases bytes : h.console.asBytes = true
  · exact .inr (Console.takes_of_plain (plain_stripLineFeeds (plain bytes)) _)
  · exact .inr (by simp [Console.takes, bytes])

theorem plain_notRun {reason : String} (named : Plain d.program) (plain : Plain reason) : Plain (d.notRun reason) :=
  ((Plain.append (by decide) named).append (by decide)).append plain

/-- What the runner says itself is plain when the program has a plain name. -/
theorem plain_report {h : Host} (named : Plain d.program)
    (printed : ∀ status output, (h.upshot (d.command code)).1 = .ended status output → Plain output) :
    Plain (d.report (h.upshot (d.command code)).1).2 := by
  cases came : (h.upshot (d.command code)).1 with
  | ended status output => exact printed status output came
  | refused errno => exact plain_notRun named (Errno.plain_text errno)
  | broken fault =>
    exact plain_notRun named (Host.broken_of (P := Fault.IsPlain) Utf8Fault.plain_message (Host.fails_commandOf _ _) came)

/-- What cannot be shown names the program by what is no text, or is a text of the command with surrogates. -/
theorem unnamed_of_not_canShow {h : Host} (untaken : ¬ d.CanShow code h) : h.console.asBytes = true ∧
    (¬ Plain d.program ∨ ∃ status output, (h.upshot (d.command code)).1 = .ended status output ∧ ¬ Plain output) := by
  by_contra other
  refine untaken (canShow_of_plain fun bytes => ?_)
  have ⟨named, printed⟩ := not_or.mp (not_and.mp other bytes)
  exact plain_report (not_not.mp named) fun status output came => not_not.mp fun bare => printed
    ⟨status, output, came, bare⟩

theorem failureMessage_ne (d : Delegate) (status : Int) (output : String) : d.failureMessage status output ≠ "" := by
  rw [failureMessage]
  split
  · next said => exact said
  · intro empty
    have length := congrArg String.length empty
    simp [String.length_append] at length

/-! ## Runs -/

/-- No command is asked for, or one: the words of the delegate and the code after them. -/
inductive Asks (d : Delegate) (code : Value) (h h' : Host) : Prop
  | none (same : h'.asked = h.asked)
  | once (words : List ByteArray) (last : ByteArray) (own : (d.words.map Value.text).mapM Host.wholeWord = .ok words)
      (given : Host.wholeWord code = .ok last) (asked : h'.asked = ⟨words ++ [last], Option.none⟩ :: h.asked)

/-- What the runner reports of some code, on the way from one host to another. -/
structure Runs (d : Delegate) (code : Value) (h h' : Host) (status : Int) (output : String) : Prop where
  reported : ((d.run code).result h).1 = .ok (status, output)
  reports : d.Reports code h h' status output
  asks : d.Asks code h h'

theorem Asks.of_asked {h h' h'' : Host} (asks : d.Asks code h h') (same : h''.asked = h'.asked) :
    d.Asks code h h'' := by
  cases asks with
  | none kept => exact .none (same.trans kept)
  | once words last own given asked => exact .once words last own given (same.trans asked)

theorem Reports.of_asked {h h' h'' : Host} {status : Int} {output : String}
    (reports : d.Reports code h h' status output)
    (same : h''.asked = h'.asked) : d.Reports code h h'' status output := by
  refine ⟨fun c made => same.trans (reports.asked c made), reports.ended, reports.garbled, fun unended => ?_⟩
  exact (reports.unended unended).imp_right fun ⟨fault, made, own, said, kept⟩ =>
    ⟨fault, made, own, said, same.trans kept⟩

variable {σ : Type} [Hosted σ]

theorem asks_after (s : σ) (d : Delegate) (code : Value) :
    d.Asks code (Hosted.host s) (Hosted.host (after s d code)) := by
  rw [host_after]
  cases made : d.command code with
  | error fault => exact .none rfl
  | ok c =>
    obtain ⟨first, word, before, last, rfl⟩ := Host.commandOf_snoc made
    exact .once first word before last rfl

theorem asked_print (text : String) (s : σ) :
    (Hosted.host ((Action.print text).result s).2).asked = (Hosted.host s).asked := by
  simp only [Action.print, Action.result_of]
  split
  · rw [Hosted.host_withHost]
  · rfl

/-- What the runner reports is handed on once it is shown, and that it cannot be shown is all that stops it. -/
theorem runAndShow_runs (s : σ) (d : Delegate) (code : Value) :
    (d.CanShow code (Hosted.host s) → ∃ status output t, (d.runAndShow code).result s = (.ok (status, output), t) ∧
      d.Runs code (Hosted.host s) (Hosted.host t) status output) ∧
    (¬ d.CanShow code (Hosted.host s) → ∃ fault t, (d.runAndShow code).result s = (.error (.encoding fault), t)) := by
  have bytes : (Hosted.host (after s d code)).console.asBytes = (Hosted.host s).console.asBytes := by
    rw [host_after, Console.asBytes_log]
  have reports := reports_report s d code
  have run := run_result s d code
  rw [CanShow]
  cases reported : d.report ((Hosted.host s).upshot (d.command code)).1 with
  | mk status output =>
    rw [reported] at reports run
    have runs {t : σ} (same : (Hosted.host t).asked = (Hosted.host (after s d code)).asked) :
        d.Runs code (Hosted.host s) (Hosted.host t) status output :=
      ⟨by rw [run_result, ← reported]; rfl, reports.of_asked same, (asks_after s d code).of_asked same⟩
    rw [runAndShow, Action.result_bind_of_ok run]
    dsimp only
    by_cases silent : output = ""
    · rw [if_neg (not_not_intro silent)]
      exact ⟨fun _ => ⟨status, output, after s d code, rfl, runs rfl⟩, fun untaken => absurd (.inl silent) untaken⟩
    · rw [if_pos silent]
      have asked := asked_print (stripLineFeeds output) (after s d code)
      have printed := Action.result_print (stripLineFeeds output) (after s d code)
      rw [bytes] at printed
      cases taken : Console.takes (Hosted.host s).console.asBytes (stripLineFeeds output) with
      | ok done =>
        rw [taken] at printed
        rw [printed] at asked
        exact ⟨fun _ => ⟨status, output, _, Action.result_bind_of_ok printed, runs asked⟩,
          fun untaken => absurd (.inr rfl) untaken⟩
      | error fault =>
        rw [taken] at printed
        refine ⟨fun shows => by simp [silent] at shows, fun _ => ?_⟩
        obtain ⟨cause, rfl⟩ := Console.encoding_of_takes taken
        exact ⟨cause, _, Action.result_bind_of_error printed⟩

/-! ## Answers -/

/-- What comes of a resource that is handed over, on the way from one host to another. -/
structure Answers (d : Delegate) (r : Resource) (h h' : Host) (e : Enforcement) : Prop where
  resource : e.resource = r
  told : e.succeeded = false → ∃ message, e.failure = some message ∧ message ≠ ""
  unwritten : ∀ fault, Catalog.render [r] = .error fault → e.succeeded = false ∧ h'.asked = h.asked
  written : ∀ rendered, Catalog.render [r] = .ok rendered →
    ∃ status output, d.Runs (.text rendered) h h' status output ∧ (e.succeeded = true ↔ status = 0)

/-- What comes of a block that is handed over. -/
structure AnswersBlock (d : Delegate) (code : Value) (h h' : Host) (b : BlockResult) : Prop where
  resources : b.resources = []
  told : b.succeeded = false → ∃ message, b.failures = [message] ∧ message ≠ ""
  handed : ∃ status output, d.Runs code h h' status output ∧ (b.succeeded = true ↔ status = 0)

variable {s : σ}

theorem enforce_unwritten {r : Resource} {cause : DocumentFault} (malformed : cause.isMalformed = true)
    (unwritten : Catalog.render [r] = .error (.document cause)) (s : σ) :
    ∃ e, (d.enforce r).result s = (.ok e, s) ∧ d.Answers r (Hosted.host s) (Hosted.host s) e := by
  refine ⟨.refused ("Could not render " ++ r.display ++ ": " ++ cause.message) r, ?_, rfl, fun _ => ?_, ?_, ?_⟩
  · rw [enforce, unwritten]
    dsimp only
    rw [if_pos malformed]
    rfl
  · exact ⟨_, rfl, by simp⟩
  · exact fun _ _ => ⟨rfl, rfl⟩
  · intro rendered written
    cases unwritten.symm.trans written

theorem enforce_written {r : Resource} {code : String} (written : Catalog.render [r] = .ok code) :
    (d.CanShow (.text code) (Hosted.host s) →
      ∃ e t, (d.enforce r).result s = (.ok e, t) ∧ d.Answers r (Hosted.host s) (Hosted.host t) e) ∧
    (¬ d.CanShow (.text code) (Hosted.host s) → ∃ fault t, (d.enforce r).result s = (.error (.encoding fault), t)) := by
  have known : d.enforce r = d.runAndShow (.text code) >>= fun ran =>
      (if ran.1 ≠ 0 then return .refused (d.failureMessage ran.1 ran.2) r
      else return .success r : Action σ Enforcement) := by
    rw [enforce, written]
  rw [known]
  constructor
  · intro shows
    obtain ⟨status, output, t, ran, runs⟩ := (runAndShow_runs s d _).1 shows
    have unwritten {e : Enforcement} : ∀ fault, Catalog.render [r] = .error fault →
        e.succeeded = false ∧ (Hosted.host t).asked = (Hosted.host s).asked := by
      intro fault other
      cases written.symm.trans other
    have handed (e : Enforcement) (own : e.succeeded = true ↔ status = 0) :
        ∀ rendered, Catalog.render [r] = .ok rendered → ∃ status output,
          d.Runs (.text rendered) (Hosted.host s) (Hosted.host t) status output ∧
            (e.succeeded = true ↔ status = 0) := by
      intro rendered again
      cases written.symm.trans again
      exact ⟨status, output, runs, own⟩
    rw [Action.result_bind_of_ok ran]
    dsimp only
    by_cases zero : status = 0
    · rw [if_neg (not_not_intro zero)]
      refine ⟨.success r, t, rfl, rfl, fun failed => ?_, unwritten, handed _ ⟨fun _ => zero, fun _ => rfl⟩⟩
      cases failed
    · rw [if_pos zero]
      refine ⟨.refused (d.failureMessage status output) r, t, rfl, rfl, fun _ => ?_, unwritten, handed _ ?_⟩
      · exact ⟨_, rfl, failureMessage_ne d status output⟩
      · exact ⟨fun done => Bool.noConfusion done, fun other => absurd other zero⟩
  · intro untaken
    obtain ⟨fault, t, stopped⟩ := (runAndShow_runs s d _).2 untaken
    exact ⟨fault, t, Action.result_bind_of_error stopped⟩

theorem applyBlock_answers (s : σ) (code : Value) :
    (d.CanShow code (Hosted.host s) →
      ∃ b t, (d.applyBlock code).result s = (.ok b, t) ∧ d.AnswersBlock code (Hosted.host s) (Hosted.host t) b) ∧
    (¬ d.CanShow code (Hosted.host s) → ∃ fault t, (d.applyBlock code).result s = (.error (.encoding fault), t)) := by
  rw [applyBlock]
  constructor
  · intro shows
    obtain ⟨status, output, t, ran, runs⟩ := (runAndShow_runs s d code).1 shows
    rw [Action.result_bind_of_ok ran]
    dsimp only
    by_cases zero : status = 0
    · rw [if_neg (not_not_intro zero)]
      refine ⟨⟨true, [], []⟩, t, rfl, rfl, fun failed => ?_, status, output, runs, ⟨fun _ => zero, fun _ => rfl⟩⟩
      cases failed
    · rw [if_pos zero]
      refine ⟨.refused [d.failureMessage status output], t, rfl, rfl, fun _ => ?_, status, output, runs, ?_⟩
      · exact ⟨_, rfl, failureMessage_ne d status output⟩
      · exact ⟨fun done => Bool.noConfusion done, fun other => absurd other zero⟩
  · intro untaken
    obtain ⟨fault, t, stopped⟩ := (runAndShow_runs s d code).2 untaken
    exact ⟨fault, t, Action.result_bind_of_error stopped⟩

/-- A delegate returns a result whatever becomes of its command, when that can be shown: a failure with a message,
unless the resource could be written as code and the runner reports 0. No command is asked for if the resource could not
be written, and else one at most, with the code as its last word. What cannot be shown stops the call; that is on a
console that becomes bytes, of a program whose name is no text or of a command that printed surrogates. -/
theorem calls_return (d : Delegate) (s : σ) :
    (∀ r : Resource, (∀ fault, Catalog.render [r] = .error fault →
        ∃ cause : DocumentFault, fault = .document cause ∧ cause.isMalformed = true) →
      ((∀ code, Catalog.render [r] = .ok code → d.CanShow (.text code) (Hosted.host s)) →
        ∃ e t, (d.enforce r).result s = (.ok e, t) ∧ d.Answers r (Hosted.host s) (Hosted.host t) e) ∧
      ∀ code, Catalog.render [r] = .ok code → ¬ d.CanShow (.text code) (Hosted.host s) →
        ∃ fault t, (d.enforce r).result s = (.error (.encoding fault), t)) ∧
    ∀ code, (d.CanShow code (Hosted.host s) →
        ∃ b t, (d.applyBlock code).result s = (.ok b, t) ∧ d.AnswersBlock code (Hosted.host s) (Hosted.host t) b) ∧
      (¬ d.CanShow code (Hosted.host s) →
        (∃ fault t, (d.applyBlock code).result s = (.error (.encoding fault), t)) ∧
        (Hosted.host s).console.asBytes = true ∧ (¬ Plain d.program ∨ ∃ status output,
          ((Hosted.host s).upshot (d.command code)).1 = .ended status output ∧ ¬ Plain output)) := by
  refine ⟨fun r writes => ⟨fun shows => ?_, fun code written => (enforce_written written).2⟩, fun code => ?_⟩
  · cases written : Catalog.render [r] with
    | error fault =>
      obtain ⟨cause, rfl, malformed⟩ := writes fault written
      obtain ⟨e, result, answers⟩ := enforce_unwritten malformed written s
      exact ⟨e, s, result, answers⟩
    | ok code => exact (enforce_written written).1 (shows code written)
  · have answers := applyBlock_answers (d := d) s code
    exact ⟨answers.1, fun untaken => ⟨answers.2 untaken, unnamed_of_not_canShow untaken⟩⟩

/-- A notice without a message. -/
def greeting : Resource := ⟨{ type := "notify", name := "hello" }, ∅⟩

theorem calls_return_greeting : ∃ e t b u, (own.enforce greeting).result Host.bare = (.ok e, t) ∧
    e.resource = greeting ∧ e.succeeded = false ∧ (∃ message, e.failure = some message ∧ message ≠ "") ∧
    (own.applyBlock .null).result Host.bare = (.ok b, u) ∧ b.resources = [] := by
  have shows (code : Value) : own.CanShow code Host.bare := canShow_of_plain fun bytes => by cases bytes
  obtain ⟨code, found⟩ := Option.isSome_iff_exists.mp
    (by decide +kernel : (Catalog.render [greeting]).toOption.isSome = true)
  have written := eq_ok_of_toOption found
  obtain ⟨resources, blocks⟩ := calls_return own Host.bare
  obtain ⟨e, t, result, answers⟩ := (resources greeting (fun fault unwritten => by
    cases written.symm.trans unwritten)).1 fun code _ => shows (.text code)
  obtain ⟨b, u, result', answers'⟩ := (blocks .null).1 (shows .null)
  obtain ⟨status, output, runs, succeeds⟩ := answers.written code written
  have failed : status ≠ 0 := by
    have unended : ∀ status bytes, ¬ own.Ends (.text code) Host.bare status bytes := by
      rintro status bytes ⟨c, -, launched⟩
      cases launched
    rcases runs.reports.unended unended with ⟨errno, rfl, -⟩ | ⟨fault, -, rfl, -⟩
    · decide
    · decide
  have lost : e.succeeded = false := Bool.eq_false_iff.mpr fun done => failed (succeeds.mp done)
  exact ⟨e, t, b, u, result, answers.resource, lost, answers.told lost, result', answers'.resources⟩

/-- A delegate whose program has a byte in its name that is no text. -/
def unnamed : Delegate := ⟨String.singleton (charOf 0xDCFF), []⟩

/-- Where what is printed becomes bytes, the system is asked for a program whose name is no text and has none, and the
delegate gives no answer: it stops when it shows that. -/
theorem applyBlock_unnamed : ∃ fault t,
    (unnamed.applyBlock (.text "x")).result { Host.bare with console := { Console.blank with asBytes := true } } =
      (.error (.encoding fault), t) ∧ t.asked.length = 1 := by
  generalize known : ({ Host.bare with console := { Console.blank with asBytes := true } } : Host) = h
  have asked : ((unnamed.applyBlock (.text "x")).result h).2.asked.length = 1 := by
    subst known
    decide +kernel
  have lost : ((unnamed.applyBlock (.text "x")).result h).1.toOption.isSome = false := by
    subst known
    decide +kernel
  have answers := applyBlock_answers (d := unnamed) h (.text "x")
  have untaken : ¬ unnamed.CanShow (.text "x") h := fun shows => by
    obtain ⟨b, t, result, -⟩ := answers.1 shows
    rw [result] at lost
    cases lost
  obtain ⟨fault, t, stopped⟩ := answers.2 untaken
  rw [stopped] at asked
  exact ⟨fault, t, stopped, asked⟩

end Delegate

end Converge
