import Converge.Backend.Delegate
import Converge.Proofs.Frames
import Converge.Proofs.Launches
import Converge.Proofs.PlainText
import Converge.Proofs.Standing

/-!
# What a delegate reports

A delegate reports the status with which its command ended and the text that the command printed, or else that it
could not run it. When the command prints what is no text the delegate says so too, although the command was run to
its end (`run_reports`, `run_garbledOutput`).
-/

namespace Converge

/-! ## Texts that have bytes -/

namespace Text

theorem plain_of_encode {s : String} {bytes : ByteArray} (encoded : encode s = .ok bytes) : Plain s := by
  have plain (l : List Char) (n : Nat) (none : firstSurrogates? false n l = none) : PlainChars l := by
    induction l generalizing n with
    | nil => exact .nil
    | cons c l ih =>
      rw [firstSurrogates?] at none
      split at none
      · cases none
      · next other => exact .cons (by simpa using other) (ih _ none)
  rw [encode] at encoded
  split at encoded
  · next none => exact plain _ _ none
  · cases encoded

theorem plain_unifyNewlines_of {s : String} (plain : Plain s) : Plain (unifyNewlines s) := by
  have unified (l : List Char) (plain : PlainChars l) : PlainChars (unifyChars l) := by
    fun_induction unifyChars l with
    | case1 rest ih => exact .cons (by decide) (ih fun c member => plain c (by simp [member]))
    | case2 rest _ ih => exact .cons (by decide) (ih fun c member => plain c (by simp [member]))
    | case3 c rest _ _ ih => exact .cons (plain c (by simp)) (ih fun d member => plain d (by simp [member]))
    | case4 => exact .nil
  exact .ofList (unified _ plain)

end Text

namespace Delegate

/-! ## What is reported -/

/-- The command that hands over some code, if there is one. -/
def command (d : Delegate) (code : Value) : Except Fault Command :=
  Host.commandOf (d.words.map .text ++ [code]) .null

/-- What is reported of what the command comes to. -/
def report (d : Delegate) : Upshot → Int × String
  | .ended status output => (status, output)
  | .refused errno => (notStarted, d.notRun errno.text)
  | .broken fault => (notUsable, d.notRun fault.message)

/-- The command is started with some code, and ends with a status after it printed some bytes. -/
def Ends (d : Delegate) (code : Value) (h : Host) (status : Int) (output : ByteArray) : Prop :=
  ∃ c, d.command code = .ok c ∧ (h.launched c).1 = .ended status output

variable {d : Delegate} {code : Value}

theorem Ends.upshot {h : Host} {status : Int} {output : ByteArray} (ends : d.Ends code h status output) :
    (h.upshot (d.command code)).1 = (Launch.ended status output).upshot := by
  obtain ⟨c, made, launched⟩ := ends
  rw [made]
  exact congrArg Launch.upshot launched

/-- What is handed over is refused for no other reason than that it cannot be an argument. -/
theorem isArgumentFault_of_broken {h : Host} {fault : Fault} (broken : (h.upshot (d.command code)).1 = .broken fault) :
    fault.isArgumentFault = true := by
  refine Host.broken_of (P := fun fault => fault.isArgumentFault = true) (fun _ => rfl) ?_ broken
  exact Host.fails_commandOf_of (P := fun fault => fault.isArgumentFault = true) (fun _ => rfl) (fun _ => rfl) rfl
    (fun same => by simp at same) _

variable {σ : Type} [Hosted σ] (s : σ)

/-- The state after the command was run with some code: that is on the record, and the host is as the command left
it. -/
def after (d : Delegate) (code : Value) : σ :=
  Hosted.withHost s { ((Hosted.host s).upshot (d.command code)).2 with
    console := (Hosted.host s).console.log .debug ("Running " ++ " ".intercalate d.words) }

theorem run_result (d : Delegate) (code : Value) : (d.run code).result s =
    (.ok (d.report ((Hosted.host s).upshot (d.command code)).1), after s d code) := by
  have ran (t : σ) : (Action.onHost (Host.run (d.words.map .text ++ [code]) .null) : Action σ _).attempt.result t =
      (.ok (((Hosted.host t).upshot (d.command code)).1.result (Host.programOf (d.words.map .text ++ [code]))),
        Hosted.withHost t ((Hosted.host t).upshot (d.command code)).2) := by
    rw [Action.result_attempt, Action.result_onHost, Host.run_result]
    rfl
  rw [run, Action.result_bind_of_ok (show (Action.log .debug _ : Action σ Unit).result s = (.ok (), _) from rfl),
    Action.result_bind_of_ok (ran _), Hosted.host_withHost, Hosted.withHost_withHost, Host.upshot_console, after]
  cases came : ((Hosted.host s).upshot (d.command code)).1 with
  | ended status output => rfl
  | refused errno => rfl
  | broken fault =>
    have argument := isArgumentFault_of_broken came
    cases fault with
    | system refusal => cases refusal with
      | mk errno path => cases errno <;> cases argument
    | _ => exact congrArg (Action.result · _) (if_pos argument)

theorem host_after (d : Delegate) (code : Value) :
    Hosted.host (after s d code) = { ((Hosted.host s).upshot (d.command code)).2 with
      console := (Hosted.host s).console.log .debug ("Running " ++ " ".intercalate d.words) } :=
  Hosted.host_withHost _ _

theorem plain_stripLineFeeds {output : String} (plain : Text.Plain output) :
    Text.Plain (Text.stripLineFeeds output) := by
  refine .ofList (plain.subset fun c member => ?_)
  rw [Text.dropRight, List.mem_reverse] at member
  simpa using (List.dropWhile_sublist _).subset member

/-- What is reported is shown when it is a text without surrogates. -/
theorem runAndShow_result {status : Int} {output : String} (plain : Text.Plain output)
    (reported : d.report ((Hosted.host s).upshot (d.command code)).1 = (status, output)) :
    ∃ t, (d.runAndShow code).result s = (.ok (status, output), t) := by
  rw [runAndShow, Action.result_bind_of_ok (run_result s d code), reported]
  dsimp only
  split
  · exact ⟨_, Action.result_bind_of_ok (Action.result_print_of_plain (plain_stripLineFeeds plain) _)⟩
  · exact ⟨_, rfl⟩

/-- What a delegate reports of the command that hands over some code, by what became of it on a host. -/
structure Reports (d : Delegate) (code : Value) (h h' : Host) (status : Int) (output : String) : Prop where
  asked : ∀ c, d.command code = .ok c → h'.asked = c :: h.asked
  ended : ∀ own bytes text, d.Ends code h own bytes → Host.outputText bytes = .ok text → status = own ∧ output = text
  garbled : ∀ own bytes fault, d.Ends code h own bytes → Host.outputText bytes = .error fault →
    status = notUsable ∧ output = d.notRun fault.message
  /-- The system has refused the command, or it was not even asked for one. -/
  unended : (∀ own bytes, ¬ d.Ends code h own bytes) →
    (∃ errno : Errno, status = notStarted ∧ output = d.notRun errno.text) ∨
    ∃ fault, d.command code = .error fault ∧ status = notUsable ∧ output = d.notRun fault.message ∧ h'.asked = h.asked

theorem reports_report (d : Delegate) (code : Value) : d.Reports code (Hosted.host s) (Hosted.host (after s d code))
    (d.report ((Hosted.host s).upshot (d.command code)).1).1
    (d.report ((Hosted.host s).upshot (d.command code)).1).2 := by
  refine ⟨fun c made => ?_, fun own bytes text ends read => ?_, fun own bytes fault ends garbled => ?_,
    fun unended => ?_⟩
  · rw [host_after, made]
    rfl
  · rw [ends.upshot, Launch.upshot, read]
    exact ⟨rfl, rfl⟩
  · rw [ends.upshot, Launch.upshot, garbled]
    exact ⟨rfl, rfl⟩
  · cases made : d.command code with
    | error fault => exact .inr ⟨fault, rfl, rfl, rfl, by rw [host_after, made]; rfl⟩
    | ok c =>
      cases launched : ((Hosted.host s).launched c).1 with
      | ended own bytes => exact absurd ⟨c, made, launched⟩ (unended own bytes)
      | refused errno =>
        rw [Host.upshot, launched]
        exact .inl ⟨errno, rfl, rfl⟩

/-- A delegate reports the status and the text with which its command ended, when what the command printed is a text,
and a resource or a block for which it then ended with 0 has succeeded. What is no text makes it report that it could
not run the command, as it does of one that was not started. -/
theorem run_reports (d : Delegate) (code : Value) : ∃ status output t,
    (d.run code).result s = (.ok (status, output), t) ∧
    d.Reports code (Hosted.host s) (Hosted.host t) status output ∧
    ∀ bytes text, d.Ends code (Hosted.host s) 0 bytes → Text.encode text = .ok bytes →
      (∃ u, (d.applyBlock code).result s = (.ok ⟨true, [], []⟩, u)) ∧
      ∀ r rendered, Catalog.render [r] = .ok rendered → code = .text rendered →
        ∃ u, (d.enforce r).result s = (.ok (.success r), u) := by
  refine ⟨_, _, _, run_result s d code, reports_report s d code, fun bytes text ends encoded => ?_⟩
  have read : Host.outputText bytes = .ok (Text.unifyNewlines text) := by
    rw [Host.outputText, Text.decode_of_encode encoded]
  have same := (reports_report s d code).ended 0 bytes _ ends read
  obtain ⟨u, shown⟩ := runAndShow_result s (Text.plain_unifyNewlines_of (Text.plain_of_encode encoded))
    (Prod.ext same.1 same.2)
  refine ⟨⟨u, ?_⟩, fun r rendered found same => ⟨u, ?_⟩⟩
  · rw [applyBlock, Action.result_bind_of_ok shown]
    rfl
  · subst same
    rw [enforce, found]
    dsimp only
    rw [Action.result_bind_of_ok shown]
    rfl

/-- A host on which every command prints some bytes and ends with 0. -/
def printing (bytes : ByteArray) : Host := { Host.bare with launcher := fun _ _ files => (.ended 0 bytes, files) }

/-- The usual command of a program that is called converge. -/
def own : Delegate := usual "converge"

theorem run_reports_greeting : ∃ output t,
    (own.run (.text "x")).result (printing "hello\n".toUTF8) = (.ok (0, output), t) ∧
    output = "hello\n" ∧ t.asked.length = 1 ∧
    ∃ u, (own.applyBlock (.text "x")).result (printing "hello\n".toUTF8) = (.ok ⟨true, [], []⟩, u) := by
  have encoded : Text.encode "hello\n" = .ok "hello\n".toUTF8 := rfl
  have read : Host.outputText "hello\n".toUTF8 = .ok (Text.unifyNewlines "hello\n") := by
    rw [Host.outputText, Text.decode_toUTF8]
  obtain ⟨c, found⟩ := Option.isSome_iff_exists.mp
    (by decide +kernel : (own.command (.text "x")).toOption.isSome = true)
  have made := eq_ok_of_toOption found
  have ends : own.Ends (.text "x") (printing "hello\n".toUTF8) 0 "hello\n".toUTF8 := ⟨c, made, rfl⟩
  obtain ⟨status, output, t, run, reports, succeeds⟩ := run_reports (printing "hello\n".toUTF8) own (.text "x")
  obtain ⟨rfl, rfl⟩ := reports.ended 0 _ _ ends read
  exact ⟨_, t, run, Text.unifyNewlines_of_plain (by decide), congrArg List.length (reports.asked c made),
    (succeeds _ _ ends encoded).1⟩

/-- A command that printed a byte that is no text was run to its end, with status 0, and is reported not to have run;
so a block that it applied counts as failed. -/
theorem run_garbledOutput : own.Ends (.text "x") (printing ⟨#[0xFF]⟩) 0 ⟨#[0xFF]⟩ ∧
    (∃ t, (own.run (.text "x")).result (printing ⟨#[0xFF]⟩) = (.ok (notUsable, own.notRun
      "'utf-8' codec can't decode byte 0xff in position 0: invalid start byte"), t) ∧ t.asked.length = 1) ∧
    ∃ b t, (own.applyBlock (.text "x")).result (printing ⟨#[0xFF]⟩) = (.ok b, t) ∧ b.succeeded = false := by
  obtain ⟨c, found⟩ := Option.isSome_iff_exists.mp
    (by decide +kernel : (own.command (.text "x")).toOption.isSome = true)
  have ends : own.Ends (.text "x") (printing ⟨#[0xFF]⟩) 0 ⟨#[0xFF]⟩ := ⟨c, eq_ok_of_toOption found, rfl⟩
  have run : (own.run (.text "x")).result (printing ⟨#[0xFF]⟩) = (.ok _, _) :=
    Prod.ext (eq_ok_of_toOption (a := (notUsable, own.notRun
      "'utf-8' codec can't decode byte 0xff in position 0: invalid start byte")) (by decide +kernel)) rfl
  obtain ⟨b, applied, failed⟩ : ∃ b, ((own.applyBlock (.text "x")).result (printing ⟨#[0xFF]⟩)).1.toOption = some b ∧
      b.succeeded = false := by
    have failed : (((own.applyBlock (.text "x")).result (printing ⟨#[0xFF]⟩)).1.toOption.map BlockResult.succeeded) =
      some false := by decide +kernel
    rwa [Option.map_eq_some_iff] at failed
  exact ⟨ends, ⟨_, run, by decide +kernel⟩, b, _, Prod.ext (eq_ok_of_toOption applied) rfl, failed⟩

end Delegate

end Converge
