import Converge.Proofs.Calls

/-!
# Runs of a session

Loading a script only looks at the files (`Looks`), so a run finds the same script whatever was printed
before. A session over recorded backends runs as the session itself does (`run_follows`), and what a run
leaves is told by the calls on the record (`run_correct`).
-/

namespace Converge

/-! ## Loading -/

/-- An action on the host that only looks at the files: whatever the console is, it sees the same and
changes nothing. -/
def Looks {α : Type} (a : Action Host α) : Prop :=
  ∀ h k : Host, k.files = h.files → k.cwd = h.cwd → a.result k = ((a.result h).1, k)

namespace Looks

variable {α β : Type}

theorem consult (path : String) (f : FileSystem → Place → Except Errno α) : Looks (Host.consult path f) := by
  intro h k files cwd
  simp only [Host.consult, Action.result_of, files, cwd]
  split
  · rfl
  · rfl
  · rfl

theorem exists? (path : String) : Looks (Host.exists? path) := by
  intro h k files cwd
  simp only [Host.exists?, Host.ask, Action.result_of, files, cwd]
  split <;> rfl

theorem ofExcept (r : Except Fault α) : Looks (.ofExcept r) := fun _ _ _ _ => rfl

theorem bind {a : Action Host α} {f : α → Action Host β} (first : Looks a) (later : ∀ x, Looks (f x)) :
    Looks (a >>= f) := by
  intro h k files cwd
  have still : (a.result h).2 = h := congrArg Prod.snd (first h h rfl rfl)
  have there := first h k files cwd
  cases seen : (a.result h).1 with
  | error fault =>
    rw [seen] at there
    rw [Action.result_bind_of_error there, Action.result_bind_of_error (Prod.ext seen still)]
  | ok x =>
    rw [seen] at there
    rw [Action.result_bind_of_ok there, Action.result_bind_of_ok (Prod.ext seen still)]
    exact later x h k files cwd

theorem attempt {a : Action Host α} (looks : Looks a) : Looks a.attempt := by
  intro h k files cwd
  rw [Action.result_attempt, Action.result_attempt, looks h k files cwd]

theorem readText (path : String) : Looks (Host.readText path) := by
  refine bind (consult path _) fun bytes => ?_
  cases Text.decode bytes with
  | ok s => exact ofExcept (.ok _)
  | error fault => exact ofExcept (.error _)

theorem load (runtime : Runtime) (path : String) : Looks (Script.load runtime path) := by
  refine bind (attempt (readText path)) fun outcome => ?_
  cases outcome with
  | ok source => exact ofExcept _
  | error fault => exact ofExcept (.error _)

end Looks

/-- A script of some instructions is at a path of the host. -/
structure Loads (runtime : Runtime) (h : Host) (path : String) (is : List Instruction) : Prop where
  present : ((Host.exists? (Path.normal path)).result h).1 = .ok true
  script : ((Script.load runtime (Path.normal path)).result h).1 = .ok (.instructions (Path.normal path) is)

theorem Loads.unique {runtime : Runtime} {h : Host} {path : String} {is js : List Instruction}
    (loads : Loads runtime h path is) (others : Loads runtime h path js) : is = js :=
  (Script.instructions.inj (Except.ok.inj (loads.script.symm.trans others.script))).2

/-- What a console shows of some messages on the output for errors. -/
def Console.told (c : Console) (messages : List String) : String :=
  String.join (messages.map fun m => c.errorText (Console.lineOf m))

theorem Console.told_append (c : Console) (first second : List String) :
    c.told (first ++ second) = c.told first ++ c.told second := by
  simp [told]

theorem Console.told_congr {c d : Console} (same : c.asBytes = d.asBytes) {messages : List String} :
    c.told messages = d.told messages := by
  simp [told, errorText, same]

/-! ## Sessions that follow one another -/

section

variable {σ τ : Type} {part : τ → σ}

/-- A run over a whole, as one over a part. -/
def Run.map (part : τ → σ) (t : Run τ) : Run σ := ⟨t.ledger, part t.world⟩

theorem Run.projects [Hosted τ] [Hosted σ] (projects : Projects part) : Projects (Run.map part) :=
  ⟨fun t => projects.host t.world, fun t h => by
    simp [Run.map, Hosted.withHost, projects.withHost]⟩

/-- Backends of a whole that follow those of a part. -/
structure Backends.Follow (part : τ → σ) (b : Backends τ) (c : Backends σ) : Prop where
  enforce : ∀ r, Follows part (b.enforce r) (c.enforce r)
  applyBlock : ∀ code, Follows part (b.applyBlock code) (c.applyBlock code)

namespace Session

/-- A session with other backends. -/
def against (s : Session σ) (b : Backends τ) : Session τ := ⟨b, s.options, s.runtime⟩

theorem onWorld_follows {α : Type} {a : Action τ α} {b : Action σ α} (follows : Follows part a b) :
    Follows (Run.map part) (onWorld a) (onWorld b) := by
  intro t
  simp [onWorld, Run.map, follows t.world]

theorem record_follows (f : Ledger → Ledger) : Follows (Run.map part) (record f) (record f) := fun _ => rfl

variable [Hosted τ] [Hosted σ]

theorem printIf_follows (projects : Projects part) (asked : Bool) (text : Except Fault String) :
    Follows (Run.map part) (printIf asked text) (printIf asked text) := by
  cases asked with
  | false => exact .pure ()
  | true => exact .bind (.ofExcept text) fun _ => .print (Run.projects projects) _

section

variable (projects : Projects part) (s : Session σ) {b : Backends τ} (follow : Backends.Follow part b s.backends)
include projects

theorem conclude_follows (y : Reply) : Follows (Run.map part) ((s.against b).conclude y) (s.conclude y) := by
  have recorded : Follows (Run.map part) (record fun l => l.recordResources y.resources)
      (record fun l => l.recordResources y.resources) := record_follows _
  refine .bind (printIf_follows projects _ _) fun _ => ?_
  exact .ite (.bind (record_follows _) fun _ => .ite (.bind (.throw _) fun _ => recorded) recorded) recorded

include follow

theorem enforce_follows (r : Resource) : Follows (Run.map part) ((s.against b).enforce r) (s.enforce r) := by
  rw [enforce_eq, enforce_eq]
  exact .bind (printIf_follows projects _ _) fun _ => .bind (onWorld_follows (follow.enforce r)) fun result =>
    .bind (conclude_follows projects s _) fun _ => .pure _

theorem apply_follows (code : Value) : Follows (Run.map part) ((s.against b).apply code) (s.apply code) := by
  have block : Follows (Run.map part) ((s.against b).blockResult code) (s.blockResult code) := by
    unfold blockResult
    split
    · exact onWorld_follows (follow.applyBlock _)
    · split
      · exact onWorld_follows (follow.applyBlock _)
      · split
        · exact .ofExcept _
        · exact .throw _
  rw [apply_eq, apply_eq]
  exact .bind (printIf_follows projects _ _) fun _ => .bind block fun _ =>
    .bind (conclude_follows projects s _) fun _ => .pure _

theorem resource_follows (type name params : Value) (extra : Table Value) :
    Follows (Run.map part) ((s.against b).resource type name params extra) (s.resource type name params extra) := by
  refine .bind (.ofExcept _) fun entries => ?_
  dsimp only
  split
  · exact .throw _
  · exact enforce_follows projects s follow _

theorem perform_follows (i : Instruction) : Follows (Run.map part) ((s.against b).perform i) (s.perform i) := by
  unfold perform
  split
  · exact .bind (resource_follows projects s follow _ _ _ _) fun _ => .pure _
  · exact .bind (apply_follows projects s follow _) fun _ => .pure _
  · split
    · exact .bind (apply_follows projects s follow _) fun _ => .pure _
    · exact .throw _

theorem proceed_follows (program : Routine) :
    Follows (Run.map part) ((s.against b).proceed program) (s.proceed program) := by
  have hosts := Run.projects projects
  induction program with
  | done => exact .pure ()
  | raise fault => exact .throw fault
  | own step next ih => exact .bind (.attempt (.onHost hosts step)) fun outcome => ih outcome
  | resource positional named next ih =>
    exact .bind (.attempt (.bind (.ofExcept _) fun _ => resource_follows projects s follow _ _ _ _)) fun outcome =>
      ih outcome
  | apply positional named next ih =>
    exact .bind (.attempt (.bind (.ofExcept _) fun _ => apply_follows projects s follow _)) fun outcome => ih outcome

omit [Hosted σ] [Hosted τ] follow projects in
theorem inScript_follows (path : String) {a : Action τ Unit} {c : Action σ Unit} (follows : Follows part a c) :
    Follows part (inScript path a) (inScript path c) := by
  refine .bind (.attempt follows) fun outcome => ?_
  split
  · exact .pure _
  · exact .throw _

theorem evaluate_follows (script : Script) :
    Follows (Run.map part) ((s.against b).evaluate script) (s.evaluate script) := by
  cases script with
  | instructions path is =>
    exact .forM _ fun i _ => inScript_follows path (perform_follows projects s follow i)
  | calls path program => exact inScript_follows path (proceed_follows projects s follow _)

omit follow in
theorem settle_follows (outcome : Except Fault Unit) :
    Follows (Run.map part) (settle outcome) (settle outcome) := by
  unfold settle
  split
  · exact .pure ()
  · exact .printError (Run.projects projects) _
  · exact .printError (Run.projects projects) _
  · exact record_follows _
  · exact .throw _

omit follow in
theorem close_follows : Follows (Run.map part) (close : Action (Run τ) Nat) close := by
  have hosts := Run.projects projects
  exact .get fun t => .bind (.print hosts _) fun _ => .bind (.forM _ fun _ _ => .printError hosts _) fun _ => .pure _

/-- A run over a whole is the run over the part, where the backends follow those of the part. -/
theorem run_follows (path : String) (extra : List String) :
    Follows (Run.map part) ((s.against b).run path extra) (s.run path extra) := by
  have hosts := Run.projects projects
  refine .bind (.onHost hosts _) fun found => .ite (.bind (.throw _) fun _ => ?_) ?_
  all_goals
  · refine .bind ?_ fun _ => .bind (record_follows _) fun _ => .bind (.attempt ?_) fun outcome =>
      .bind (settle_follows projects outcome) fun _ => close_follows projects
    · exact .ite (.pure ()) (.log hosts _ _)
    · exact .bind (.onHost hosts _) fun script => .bind (.log hosts _ _) fun _ =>
        evaluate_follows projects s follow script

end

end Session

end

namespace Session

variable {σ ε : Type} [Hosted σ]

/-- A call whose faults end the program is the first part of what follows. -/
theorem attempt_raising (s : Session σ) {α : Type} (a : Action (Run σ) α) {next : Except Fault α → Routine}
    (raises : ∀ fault, next (.error fault) = .raise fault) :
    (do s.proceed (next (← a.attempt))) = a >>= fun x => s.proceed (next (.ok x)) := by
  refine funext fun t => ?_
  change Action.result _ t = Action.result _ t
  rw [Action.result_bind_of_ok (Action.result_attempt a t), Action.result_bind]
  cases a.result t with
  | mk outcome after =>
    cases outcome with
    | ok x => rfl
    | error fault =>
      dsimp only
      rw [raises, proceed, Action.result_throw]

/-! ## Runs -/

/-- The messages that the outcome of a script adds: a failed call has left its own already, and a fault without a
text leaves none. -/
def wordings (path : String) : Except Fault Unit → List String
  | .ok () | .error (.enforcement _) | .error .blockEnforcement => []
  | .error fault => match fault.text with
    | .ok text => [path ++ ": " ++ fault.kind ++ ": " ++ text]
    | .error _ => []

/-- What the outcome of a script raises beyond the script: what a fault raises when it is asked for a text that it
does not have. -/
def escaped? : Except Fault Unit → Option Fault
  | .ok () => none
  | .error fault => match fault.text with
    | .ok _ => none
    | .error raised => some raised

/-- How a run ends after some outcome of its script: with the number of failures, or with what is raised beyond it. -/
def endOf (outcome : Except Fault Unit) (failures : Nat) : Except Fault Nat :=
  match escaped? outcome with
  | none => .ok failures
  | some raised => .error raised

/-- The line that tells of the failed call at which a script stopped. -/
def stopLines : Except Fault Unit → List String
  | .error (.enforcement ref) => ["Failed enforcing " ++ ref]
  | .error .blockEnforcement => ["Failed applying code block"]
  | _ => []

/-- Messages were printed among the errors, and nothing else has changed. -/
structure Printed (messages : List String) (t after : Run σ) : Prop where
  ledger : after.ledger = t.ledger
  out : (Hosted.host after).console.out = (Hosted.host t).console.out
  err : (Hosted.host after).console.err = (Hosted.host t).console.err ++ (Hosted.host t).console.told messages
  asBytes : (Hosted.host after).console.asBytes = (Hosted.host t).console.asBytes

theorem Printed.nil (t : Run σ) : Printed [] t t := by
  refine ⟨rfl, rfl, ?_, rfl⟩
  simp [Console.told]

theorem Printed.trans {first second : List String} {t between after : Run σ} (earlier : Printed first t between)
    (later : Printed second between after) : Printed (first ++ second) t after := by
  refine ⟨later.ledger.trans earlier.ledger, later.out.trans earlier.out, ?_, later.asBytes.trans earlier.asBytes⟩
  rw [later.err, earlier.err]
  simp [Console.told, Console.errorText, earlier.asBytes, String.append_assoc]

theorem printError_result (message : String) (t : Run (Traced σ ε)) : ∃ after,
    (Action.printError message).result t = (.ok (), after) ∧ Printed [message] t after ∧
      after.world.trace = t.world.trace := by
  refine ⟨_, rfl, ⟨rfl, ?_, ?_, ?_⟩, rfl⟩
  all_goals simp [Hosted.host_withHost, Console.printError, Console.told]

theorem printErrors_result (messages : List String) (t : Run (Traced σ ε)) : ∃ after,
    (messages.forM fun e => Action.printError e).result t = (.ok (), after) ∧ Printed messages t after ∧
      after.world.trace = t.world.trace := by
  induction messages generalizing t with
  | nil => exact ⟨t, rfl, .nil t, rfl⟩
  | cons message messages ih =>
    obtain ⟨between, first, printed, same⟩ := printError_result message t
    obtain ⟨after, later, printed', same'⟩ := ih between
    exact ⟨after, (Action.result_bind_of_ok first).trans later, printed.trans printed', same'.trans same⟩

/-- The outcome of a script adds its message to the ledger, or tells of the failed call. -/
theorem settle_result (path : String) {outcome : Except Fault Unit} (kept : escaped? outcome = none)
    (t : Run (Traced σ ε)) : ∃ after,
    (settle (outcome.mapError (asScriptFault path))).result t =
      (.ok (), { after with ledger := t.ledger.recordFailures (wordings path outcome) }) ∧
    Printed (stopLines outcome) t after ∧ after.world.trace = t.world.trace := by
  have same : t.ledger.recordFailures [] = t.ledger := by simp [Ledger.recordFailures]
  have told (message : String) : ∃ after,
      (Action.printError message : Action (Run (Traced σ ε)) Unit).result t =
        (.ok (), { after with ledger := t.ledger.recordFailures [] }) ∧
      Printed [message] t after ∧ after.world.trace = t.world.trace := by
    obtain ⟨after, run, printed, kept⟩ := printError_result message t
    refine ⟨after, ?_, printed, kept⟩
    rw [run, same, ← printed.ledger]
  cases outcome with
  | ok done => exact ⟨t, by rw [wordings, same]; rfl, .nil t, rfl⟩
  | error fault =>
    cases fault with
    | enforcement ref => exact told ("Failed enforcing " ++ ref)
    | blockEnforcement => exact told "Failed applying code block"
    | untold kind cause text => cases kept
    | _ => exact ⟨t, rfl, .nil t, rfl⟩

omit [Hosted σ] in
/-- A fault without a text goes through: nothing is recorded of it. -/
theorem settle_escaped [Hosted σ] (path : String) {outcome : Except Fault Unit} {raised : Fault}
    (escapes : escaped? outcome = some raised) (t : Run σ) :
    (settle (outcome.mapError (asScriptFault path))).result t = (.error raised, t) ∧ wordings path outcome = [] := by
  cases outcome with
  | ok done => cases escapes
  | error fault =>
    cases fault with
    | untold kind cause text =>
      obtain rfl := Option.some.inj escapes
      exact ⟨rfl, rfl⟩
    | _ => cases escapes

theorem plain_summary (l : Ledger) : Text.Plain l.summary := by
  rw [Ledger.summary]
  simp only [Text.plain_append]
  and_intros
  · decide
  · exact Text.plain_nat _
  · decide
  · exact Text.plain_nat _
  · decide

/-- At its end a run prints its summary and its failures, and returns their number. -/
theorem close_result (t : Run (Traced σ ε)) : ∃ after,
    close.result t = (.ok t.ledger.errors.length, after) ∧ after.ledger = t.ledger ∧
    after.world.trace = t.world.trace ∧
    (Hosted.host after).console.out = (Hosted.host t).console.out ++ Console.lineOf t.ledger.summary ∧
    (Hosted.host after).console.err = (Hosted.host t).console.err ++ (Hosted.host t).console.told t.ledger.errors ∧
    (Hosted.host after).console.asBytes = (Hosted.host t).console.asBytes := by
  have summary := Action.result_print_of_plain (plain_summary t.ledger) t
  obtain ⟨after, listed, printed, same⟩ := printErrors_result t.ledger.errors
    (Hosted.withHost t { Hosted.host t with console := { (Hosted.host t).console with
      out := (Hosted.host t).console.out ++ Console.lineOf t.ledger.summary } })
  have err := printed.err
  have bytes := printed.asBytes
  rw [Hosted.host_withHost] at err bytes
  refine ⟨after, ?_, printed.ledger, same, ?_, err, bytes⟩
  · rw [close, Action.result_bind_of_ok (Action.result_get t), Action.result_bind_of_ok summary,
      Action.result_bind_of_ok listed]
    rfl
  · rw [printed.out, Hosted.host_withHost]

/-- Where the host is seen as it was, an action that only looks sees the same. -/
theorem onHost_result {τ α : Type} [Hosted τ] {a : Action Host α} (looks : Looks a) {h : Host} {r : Except Fault α}
    (seen : (a.result h).1 = r) (t : τ) (files : (Hosted.host t).files = h.files)
    (cwd : (Hosted.host t).cwd = h.cwd) : (Action.onHost a).result t = (r, t) := by
  rw [Action.result_onHost, looks h (Hosted.host t) files cwd, seen, Hosted.withHost_host]

theorem log_result (level : Level) (message : String) (t : Run (Traced σ ε)) : ∃ after,
    (Action.log level message).result t = (.ok (), after) ∧ Quiet t after := by
  exact ⟨_, rfl, rfl, rfl, Shown.log level message t.world.world⟩

theorem warnExtra_result (extra : List String) (t : Run (Traced σ ε)) : ∃ after,
    (warnExtra extra).result t = (.ok (), after) ∧ Quiet t after := by
  rw [warnExtra]
  split
  · exact ⟨t, rfl, .refl t⟩
  · exact log_result _ _ t

/-- The script at a path, loaded and carried out. -/
def body (s : Session (Traced σ ε)) (path : String) : Action (Run (Traced σ ε)) Unit := do
  let script ← Action.onHost (Script.load s.runtime path)
  Action.log .debug ("Evaluating " ++ path)
  s.evaluate script

/-- A run of a script that is there begins with an empty ledger and in the state as it was, whatever the session
is. -/
theorem run_present (path : String) (extra : List String) (t : Run (Traced σ ε))
    (present : ((Host.exists? (Path.normal path)).result (Hosted.host t)).1 = .ok true) : ∃ start : Run (Traced σ ε),
      start.ledger = .empty ∧ start.world.trace = t.world.trace ∧ Shown t.world.world start.world.world ∧
      ∀ s : Session (Traced σ ε), (s.run path extra).result t =
        ((s.body (Path.normal path)).attempt >>= fun outcome => do
        settle outcome
        close).result start := by
  obtain ⟨warned, warn, quiet⟩ := warnExtra_result extra t
  refine ⟨{ warned with ledger := .empty }, rfl, quiet.trace, quiet.shown, fun s => ?_⟩
  rw [run, Action.result_bind_of_ok (onHost_result (Looks.exists? _) present t rfl rfl)]
  simp only [Bool.not_true, Bool.false_eq_true, if_false]
  rw [Action.result_bind_of_ok warn, Action.result_bind_of_ok (result_record _ warned)]
  rfl

/-- What a run prints at its end: the summary, and then the failures after some lines. -/
def PrintedLast (lines : List String) (after : Run σ) : Prop :=
  ∃ out err, (Hosted.host after).console.out = out ++ Console.lineOf after.ledger.summary ∧
    (Hosted.host after).console.err = err ++ (Hosted.host after).console.told (lines ++ after.ledger.errors)

/-- A run of a script that takes the course of some instructions: its ledger has what the calls leave and the
message of a fault, and its result is the number of failures, unless a fault has no text. -/
theorem run_takes {call : ε → Call} {sound : ε → Prop} {seen : List Request → σ → Prop}
    (stays : Stays seen) (s : Session (Traced σ ε)) (path : String)
    (extra : List String) {script : Script} {is : List Instruction}
    (takes : TakesCourse s call sound seen (Path.normal path) script is) (before : List Request) (t : Run (Traced σ ε))
    (known : seen before t.world.world)
    (present : ((Host.exists? (Path.normal path)).result (Hosted.host t)).1 = .ok true)
    (found : ((Script.load s.runtime (Path.normal path)).result (Hosted.host t)).1 = .ok script) :
    ∃ entries outcome after, Course seen s.options before is (entries.map call) outcome ∧ (∀ e ∈ entries, sound e) ∧
      (s.run path extra).result t = (endOf outcome after.ledger.errors.length, after) ∧
      after.world.trace = t.world.trace ++ entries ∧
      after.ledger = (Call.noteAll s.options .empty (entries.map call)).recordFailures
        (wordings (Path.normal path) outcome) ∧
      (escaped? outcome = none → PrintedLast (stopLines outcome) after) := by
  obtain ⟨start, fresh, sameTrace, begins, begun⟩ := run_present path extra t present
  have loaded := onHost_result (Looks.load s.runtime _) found start begins.files begins.cwd
  obtain ⟨logged, log, quiet⟩ := log_result .debug ("Evaluating " ++ Path.normal path) start
  obtain ⟨entries, outcome, evaluated, course, sounds, evaluation, trace, ledger⟩ :=
    takes before logged (stays _ _ _ (stays _ _ _ known begins) quiet.shown)
  have body : (s.body (Path.normal path)).attempt.result start =
      (.ok (outcome.mapError (asScriptFault (Path.normal path))), evaluated) := by
    rw [Action.result_attempt, Session.body, Action.result_bind_of_ok loaded, Action.result_bind_of_ok log, evaluation]
  rw [begun s, Action.result_bind_of_ok body]
  have traced : evaluated.world.trace = t.world.trace ++ entries := by rw [trace, quiet.trace, sameTrace]
  have left : evaluated.ledger = Call.noteAll s.options .empty (entries.map call) := by
    rw [ledger, quiet.ledger, fresh]
  cases escapes : escaped? outcome with
  | some raised =>
    obtain ⟨settled, silent⟩ := settle_escaped (Path.normal path) escapes evaluated
    refine ⟨entries, outcome, evaluated, course, sounds, ?_, traced, ?_, fun none => ?_⟩
    · rw [Action.result_bind_of_error settled, endOf, escapes]
    · simp [left, silent, Ledger.recordFailures]
    · rw [escapes] at none
      cases none
  | none =>
    obtain ⟨told, settled, printed, sameTrace'⟩ := settle_result (Path.normal path) escapes evaluated
    obtain ⟨after, closed, keptLedger, keptTrace, out, err, bytes⟩ := close_result
      { told with ledger := evaluated.ledger.recordFailures (wordings (Path.normal path) outcome) }
    refine ⟨entries, outcome, after, course, sounds, ?_, ?_, ?_, fun _ => ⟨(Hosted.host told).console.out,
      (Hosted.host evaluated).console.err, ?_, ?_⟩⟩
    · rw [Action.result_bind_of_ok settled, closed, keptLedger, endOf, escapes]
    · rw [keptTrace, sameTrace', traced]
    · rw [keptLedger, left]
    · rw [out, keptLedger]
      rfl
    · have sameBytes : (Hosted.host after).console.asBytes = (Hosted.host evaluated).console.asBytes :=
        bytes.trans printed.asBytes
      rw [err, Console.told_congr sameBytes, Console.told_append, ← String.append_assoc, ← printed.err, keptLedger]
      exact congrArg _ (Console.told_congr printed.asBytes)

/-! ## What a run leaves -/

/-- How the calls of a run end, with the outcome of the script and the messages that the end itself leaves: after all
instructions, before one that makes no request or that cannot be announced on any console of some kinds, at a failed
call, or at one that raised or could not be shown. -/
inductive Ending (kind : Bool → Prop) (options : Options) (path : String) (is : List Instruction) (calls : List Call) :
    Except Fault Unit → List String → Prop
  | complete (all : calls.length = is.length) (onward : ∀ c ∈ calls, c.verdict options = .ok ()) :
    Ending kind options path is calls (.ok ()) []
  | refused {i : Instruction} {fault : Fault} (next : is[calls.length]? = some i) (refused : i.request = .error fault)
      (onward : ∀ c ∈ calls, c.verdict options = .ok ()) :
    Ending kind options path is calls (.error fault) [path ++ ": " ++ fault.kind ++ ": " ++ fault.message]
  | unannounced {i : Instruction} {q : Request} {asBytes : Bool} {fault : Fault} (next : is[calls.length]? = some i)
      (asked : i.request = .ok q) (printed : kind asBytes) (unsaid : q.announce options asBytes = .error fault)
      (onward : ∀ c ∈ calls, c.verdict options = .ok ()) :
    Ending kind options path is calls (.error fault) [path ++ ": " ++ fault.kind ++ ": " ++ fault.message]
  | failed {c : Call} {y : Reply} (last : calls.getLast? = some c) (recorded : c.recorded? options = some y)
      (stops : y.goesOn options = false) : Ending kind options path is calls (.error y.stop) []
  | raised {c : Call} {fault : Fault} (last : calls.getLast? = some c) (unrecorded : c.recorded? options = none)
      (raised : c.verdict options = .error fault) :
    Ending kind options path is calls (.error fault) (wordings path (.error fault))

end Session

section

variable {σ : Type} [Hosted σ]

/-- Calls lead from states that there may be after some requests to those that there may be after one more. -/
structure Backends.Lead (b : Backends σ) (seen : List Request → σ → Prop) : Prop where
  enforce : ∀ {before w} (r : Resource), seen before w → seen (before ++ [.resource r]) ((b.enforce r).result w).2
  applyBlock : ∀ {before w} (code : Value), seen before w →
    seen (before ++ [.block code]) ((b.applyBlock code).result w).2
  stays : Stays seen

def anyState (_ : List Request) (_ : σ) : Prop := True

theorem Backends.lead_anyState (b : Backends σ) : b.Lead anyState :=
  ⟨fun _ _ => trivial, fun _ _ => trivial, fun _ _ _ _ _ => trivial⟩

/-- Backends leave a console of one of some kinds. -/
structure Backends.Print (b : Backends σ) (kind : Bool → Prop) : Prop where
  enforce : ∀ r w, kind (Hosted.host w).console.asBytes → kind (Hosted.host ((b.enforce r).result w).2).console.asBytes
  applyBlock : ∀ code w, kind (Hosted.host w).console.asBytes →
    kind (Hosted.host ((b.applyBlock code).result w).2).console.asBytes

theorem Backends.Print.lead {b : Backends σ} {kind : Bool → Prop} (print : b.Print kind) :
    b.Lead fun _ w => kind (Hosted.host w).console.asBytes :=
  ⟨fun r => print.enforce r _, fun code => print.applyBlock code _, fun _ _ _ kind shown => shown.asBytes.symm ▸ kind⟩

def Backends.recorded {σ : Type} (b : Backends σ) : Backends (Traced σ Call) where
  enforce r := noted (.resource r) (b.enforce r)
  applyBlock code := noted (.block code) (b.applyBlock code)

theorem Backends.Lead.records {b : Backends σ} {seen : List Request → σ → Prop} (lead : b.Lead seen) :
    Records id (fun _ => True) seen b.recorded :=
  ⟨fun r _ known => ⟨_, _, _, rfl, rfl, trivial, lead.enforce r known⟩,
    fun code _ known => ⟨_, _, _, rfl, rfl, trivial, lead.applyBlock code known⟩, lead.stays⟩

end

theorem Backends.recorded_follow {σ : Type} (b : Backends σ) : Backends.Follow Traced.world b.recorded b :=
  ⟨fun _ => .noted _ _, fun _ => .noted _ _⟩

namespace Session

variable {σ : Type} [Hosted σ] {seen : List Request → σ → Prop} {options : Options} {before : List Request}
  {is : List Instruction} {calls : List Call} {outcome : Except Fault Unit}

theorem wordings_of_request {i : Instruction} {fault : Fault} (refused : i.request = .error fault) (path : String) :
    wordings path (.error fault) = [path ++ ": " ++ fault.kind ++ ": " ++ fault.message] := by
  have cause {ε α β : Type} {r : Except ε α} {f : α → β} {g : ε → Fault} (same : (r.map f).mapError g = .error fault) :
      ∃ e, g e = fault := by
    cases r with
    | ok x => cases same
    | error e => exact ⟨e, Except.error.inj same⟩
  cases i with
  | resource type name params =>
    rw [Instruction.request] at refused
    obtain ⟨report, rfl⟩ := cause refused
    rfl
  | block code =>
    cases code with
    | text code => cases refused
    | mapping entries =>
      rw [Instruction.request] at refused
      obtain ⟨fault, rfl⟩ := cause refused
      rfl

theorem wordings_of_announce {q : Request} {asBytes : Bool} {fault : Fault}
    (unsaid : q.announce options asBytes = .error fault) (path : String) :
    wordings path (.error fault) = [path ++ ": " ++ fault.kind ++ ": " ++ fault.message] := by
  rw [Request.announce, Console.takes] at unsaid
  split at unsaid
  · split at unsaid
    · cases encoded : Text.encode (Console.lineOf q.announcement) with
      | ok bytes =>
        rw [encoded] at unsaid
        cases unsaid
      | error e =>
        rw [encoded] at unsaid
        cases unsaid
        rfl
    · cases unsaid
  · cases unsaid

theorem wordings_of_reply {c : Call} {y : Reply} (replied : c.reply = .ok y) (path : String) :
    wordings path (.error y.stop) = [] := by
  cases c with
  | resource r answer =>
    obtain ⟨e, -, rfl⟩ := map_ok_iff.mp replied
    rfl
  | block code answer =>
    obtain ⟨b, -, rfl⟩ := map_ok_iff.mp replied
    rfl

theorem escaped?_of_wordings {fault : Fault} (path : String) (worded : wordings path (.error fault) ≠ []) :
    escaped? (.error fault) = none := by
  cases fault with
  | untold kind cause text => exact absurd rfl worded
  | _ => rfl

theorem escaped?_stop {c : Call} {y : Reply} (replied : c.reply = .ok y) : escaped? (.error y.stop) = none := by
  cases c with
  | resource r answer =>
    obtain ⟨e, -, rfl⟩ := map_ok_iff.mp replied
    rfl
  | block code answer =>
    obtain ⟨b, -, rfl⟩ := map_ok_iff.mp replied
    rfl

theorem recorded?_eq_some {c : Call} {y : Reply} :
    c.recorded? options = some y ↔ c.reply = .ok y ∧ y.shown options = .ok () := by
  rw [Call.recorded?]
  cases c.reply with
  | error fault => simp
  | ok z =>
    simp only [Option.ite_none_right_eq_some, Option.some.injEq, Except.ok.injEq]
    constructor
    · rintro ⟨visible, rfl⟩
      refine ⟨rfl, ?_⟩
      cases shown : z.shown options with
      | error fault => simp [shown, Except.toOption] at visible
      | ok done => rfl
    · rintro ⟨rfl, shown⟩
      simp [shown, Except.toOption]

theorem Course.ends {kind : Bool → Prop} (path : String)
    (course : Course (fun _ (w : σ) => kind (Hosted.host w).console.asBytes) options before is calls outcome) :
    Ending kind options path is calls outcome (wordings path outcome) := by
  rcases course.ending with ⟨rfl, all, onward⟩ | ⟨fault, i, rfl, next, refused | ⟨q, w, asked, known, unsaid⟩, onward⟩ |
    ⟨fault, c, rfl, last, stops⟩
  · exact .complete all onward
  · rw [wordings_of_request refused]
    exact .refused next refused onward
  · rw [wordings_of_announce unsaid]
    exact .unannounced next asked known unsaid onward
  · cases recorded : c.recorded? options with
    | none => exact .raised last recorded stops
    | some y =>
      obtain ⟨replied, shown⟩ := recorded?_eq_some.mp recorded
      have stopped : (if y.goesOn options then .ok () else .error y.stop) = (.error fault : Except Fault Unit) := by
        rw [Call.verdict, replied] at stops
        change y.verdict options = _ at stops
        rwa [Reply.verdict, shown] at stops
      split at stopped
      · cases stopped
      · next stays =>
        rw [← Except.error.inj stopped, wordings_of_reply replied]
        exact .failed last recorded (by simpa using stays)

theorem noteAll_eq (options : Options) (l : Ledger) (calls : List Call) : Call.noteAll options l calls =
    ⟨l.errors ++ (calls.filterMap (Call.recorded? options)).flatMap Reply.failures,
      l.resources ++ (calls.filterMap (Call.recorded? options)).flatMap (Reply.managed · options)⟩ := by
  rw [Call.noteAll]
  induction calls.filterMap (Call.recorded? options) generalizing l with
  | nil => simp
  | cons y ys ih => simp [ih, Reply.note]

/-- A run of a script that takes the course of some instructions, and the same run with its calls on the record: the
ledger has what these leave and the message of a fault. -/
theorem run_takes_recorded (s : Session σ) (lead : s.backends.Lead seen) (path : String) (extra : List String)
    {script : Script} {is : List Instruction}
    (takes : TakesCourse (s.against s.backends.recorded) id (fun _ => True) seen (Path.normal path) script is)
    (before : List Request) (t : Run σ) (known : seen before t.world)
    (present : ((Host.exists? (Path.normal path)).result (Hosted.host t)).1 = .ok true)
    (found : ((Script.load s.runtime (Path.normal path)).result (Hosted.host t)).1 = .ok script) :
    ∃ (calls : List Call) (outcome : Except Fault Unit) (after : Run σ),
      (s.run path extra).result t = (endOf outcome after.ledger.errors.length, after) ∧
      ((s.against s.backends.recorded).run path extra).result ⟨t.ledger, t.world, []⟩ =
        (endOf outcome after.ledger.errors.length, ⟨after.ledger, after.world, calls⟩) ∧
      Course seen s.options before is calls outcome ∧
      after.ledger = (Call.noteAll s.options .empty calls).recordFailures (wordings (Path.normal path) outcome) ∧
      (escaped? outcome = none → PrintedLast [] after) := by
  obtain ⟨calls, outcome, ⟨ledger, world, trace⟩, course, -, run, same, left, printed⟩ :=
    run_takes lead.stays (s.against s.backends.recorded) path extra takes before ⟨t.ledger, t.world, []⟩ known
      present found
  have plain := run_follows Traced.projects s (Backends.recorded_follow _) path extra ⟨t.ledger, t.world, []⟩
  obtain rfl : calls = trace := same.symm
  rw [List.map_id] at course left
  rw [run] at plain
  refine ⟨calls, outcome, ⟨ledger, world⟩, plain, run, course, left, fun none => ?_⟩
  obtain ⟨out, err, printed, listed⟩ := printed none
  rw [Console.told_append, ← String.append_assoc] at listed
  exact ⟨out, _, printed, listed⟩

/-- A run of a script that loads, and the same run with its calls on the record: these take a course, and the
ledger has what they leave and the message of a fault. -/
theorem run_recorded (s : Session σ) (lead : s.backends.Lead seen) (path : String) (extra : List String)
    {is : List Instruction} (before : List Request) (t : Run σ) (known : seen before t.world)
    (loads : Loads s.runtime (Hosted.host t) path is) :
    ∃ (calls : List Call) (outcome : Except Fault Unit) (after : Run σ),
      (s.run path extra).result t = (endOf outcome after.ledger.errors.length, after) ∧
      ((s.against s.backends.recorded).run path extra).result ⟨t.ledger, t.world, []⟩ =
        (endOf outcome after.ledger.errors.length, ⟨after.ledger, after.world, calls⟩) ∧
      Course seen s.options before is calls outcome ∧
      after.ledger = (Call.noteAll s.options .empty calls).recordFailures (wordings (Path.normal path) outcome) ∧
      (escaped? outcome = none → PrintedLast [] after) :=
  s.run_takes_recorded lead path extra ((s.against s.backends.recorded).evaluate_course lead.records _ is) before t
    known loads.present loads.script

/-- A run of a script that loads, whatever runs came before, on a console that stays of some kinds: its calls are those
of the instructions in order up to the end, its ledger has the failures and the resources of the recorded replies in
order and last the message of a fault, and it ends with the summary and the failures printed, unless a backend raised
a fault without a text. -/
theorem run_correct (s : Session σ) (path : String) (extra : List String) {is : List Instruction} (t : Run σ)
    (loads : Loads s.runtime (Hosted.host t) path is) {kind : Bool → Prop} (print : s.backends.Print kind)
    (printed : kind (Hosted.host t).console.asBytes) :
    ∃ (calls : List Call) (outcome : Except Fault Unit) (last : List String) (after : Run σ),
      (s.run path extra).result t = (endOf outcome after.ledger.errors.length, after) ∧
      ((s.against s.backends.recorded).run path extra).result ⟨t.ledger, t.world, []⟩ =
        (endOf outcome after.ledger.errors.length, ⟨after.ledger, after.world, calls⟩) ∧
      (is.take calls.length).map Instruction.request = calls.map (fun c => .ok c.request) ∧
      (∀ c ∈ calls.dropLast, c.verdict s.options = .ok ()) ∧
      Ending kind s.options (Path.normal path) is calls outcome last ∧
      after.ledger.errors = (calls.filterMap (Call.recorded? s.options)).flatMap Reply.failures ++ last ∧
      after.ledger.resources = (calls.filterMap (Call.recorded? s.options)).flatMap (Reply.managed · s.options) ∧
      (escaped? outcome = none → ∃ out err,
        (Hosted.host after).console.out = out ++ Console.lineOf ("Managed " ++
          toString after.ledger.resources.length ++ " resources with " ++ toString after.ledger.errors.length ++
          " failures.") ∧
        (Hosted.host after).console.err = err ++ (Hosted.host after).console.told after.ledger.errors) := by
  obtain ⟨calls, outcome, ⟨ledger, world⟩, run, recorded, course, left, ends⟩ :=
    s.run_recorded print.lead path extra [] t printed loads
  rw [noteAll_eq] at left
  obtain rfl : ledger = _ := left
  exact ⟨calls, outcome, _, ⟨_, world⟩, run, recorded, course.asked, course.onward, course.ends _, rfl, rfl, ends⟩

/-- What a program that is called converge runs its scripts with, where no facts are known. -/
def plainly : Runtime := .ofLines "converge" .asPut ∅

/-- Backends that succeed at everything and do nothing. -/
def agreeing : Backends σ := ⟨fun r => pure (.success r), fun _ => pure ⟨true, [], []⟩⟩

/-- A host with a script of one record. -/
def oneNotice : Host :=
  let script := "[\x7b\"call\": \"resource\", \"type\": \"notify\", \"name\": \"b\"\x7d]\n"
  { Host.bare with files := ⟨[([], .directory 0o755), (["s.yaml"], .file script.toUTF8 0o644)], 0o022⟩ }

/-- The outcome of loading is the script of one record. -/
def isOneNotice : Except Fault Script → Bool
  | .ok (.instructions path [.resource type name none]) => path == "/s.yaml" && type == "notify" && name == "b"
  | _ => false

theorem isOneNotice_iff {r : Except Fault Script} :
    isOneNotice r = true ↔ r = .ok (.instructions "/s.yaml" [.resource "notify" "b" none]) := by
  constructor
  · intro same
    unfold isOneNotice at same
    split at same
    · simp only [Bool.and_eq_true, beq_iff_eq] at same
      obtain ⟨⟨rfl, rfl⟩, rfl⟩ := same
      rfl
    · cases same
  · rintro rfl
    rfl

theorem oneNotice_loads : Loads plainly oneNotice "/s.yaml" [.resource "notify" "b" none] :=
  ⟨rfl, isOneNotice_iff.mp (by decide +kernel)⟩

theorem agreeing_print (kind : Bool → Prop) : (agreeing : Backends Host).Print kind :=
  ⟨fun _ _ printed => printed, fun _ _ printed => printed⟩

theorem run_correct_oneNotice : Loads plainly oneNotice "/s.yaml" [.resource "notify" "b" none] ∧
    (agreeing : Backends Host).Print (· = false) ∧ oneNotice.console.asBytes = false ∧
    ∃ after : Run Host, ((⟨agreeing, .default, plainly⟩ : Session Host).run "/s.yaml" []).result ⟨.empty, oneNotice⟩ =
      (.ok after.ledger.errors.length, after) := by
  have ended : (((⟨agreeing, .default, plainly⟩ : Session Host).run "/s.yaml" []).result
      ⟨.empty, oneNotice⟩).1.toOption = some 0 := by decide +kernel
  obtain ⟨_, outcome, _, after, run, _⟩ :=
    run_correct (⟨agreeing, .default, plainly⟩ : Session Host) "/s.yaml" [] ⟨.empty, oneNotice⟩ oneNotice_loads
      (agreeing_print (· = false)) rfl
  refine ⟨oneNotice_loads, agreeing_print _, rfl, after, ?_⟩
  rw [run] at ended ⊢
  rw [endOf] at ended ⊢
  cases escapes : escaped? outcome with
  | none => rfl
  | some raised =>
    rw [escapes] at ended
    cases ended

/-! ## A record that makes no request -/

/-- A number with one digit too many to be written. -/
def longNumber : Int := .ofNat (Nat.pow 10 Text.maxDigits)

/-- Records of which the first asks for a block of code with such a number. -/
def longRecords : Value :=
  .list none [
    .map none [(.text "call", .text "apply"),
      (.text "code", .map none [(.text "notify", .map none [(.text "a", .map none [(.text "message",
        .int longNumber)])])])],
    .map none [(.text "call", .text "resource"), (.text "type", .text "notify"), (.text "name", .text "b")]]

/-- What the records ask for. -/
def longInstructions : List Instruction :=
  [.block (.mapping ⟨[("notify", .map none [(.text "a", .map none [(.text "message", .int longNumber)])])], by decide⟩),
    .resource "notify" "b" none]

theorem lt_length_toString {n i : Nat} (some : 0 < n) (long : Nat.pow 10 n ≤ i) : n < (toString i).length := by
  by_contra short
  exact absurd long (not_le.mpr ((Nat.length_repr_le_iff some).mp (not_lt.mp short)))

theorem longNumber_unshown : Text.showWhole? longNumber = none := by
  have digits : Text.maxDigits < (toString longNumber.natAbs).length :=
    lt_length_toString (by decide) (Int.natAbs_natCast _).ge
  rw [Text.showWhole?, if_pos digits]

/-- The records validate and the resource can be built, yet the script ends before any call. -/
theorem evaluate_longRecords : Instruction.ofValue longRecords = .ok longInstructions ∧
    (∃ r, Resource.build (.text "notify") (.text "b") (.map none []) = .ok r) ∧
    ∃ fault after, ((⟨Backends.recorded agreeing, ⟨false, true, false⟩, plainly⟩ : Session (Traced Host Call)).evaluate
        (.instructions "/s.yaml" longInstructions)).result ⟨.empty, Host.bare, []⟩ = (.error fault, after) ∧
      after.world.trace = [] := by
  have unwritten : Instruction.request (.block (.mapping ⟨[("notify", .map none [(.text "a", .map none [
      (.text "message", .int longNumber)])])], by decide⟩)) = .error (.document .longNumber) := by
    simp only [Instruction.request, Document.dump, Code.toValue, Document.check, Document.checkEntries,
      longNumber_unshown, List.map_cons, List.map_nil]
    rfl
  refine ⟨rfl, ⟨_, rfl⟩, ?_⟩
  obtain ⟨entries, outcome, after, course, -, run, trace, -⟩ :=
    (⟨Backends.recorded agreeing, ⟨false, true, false⟩, plainly⟩ : Session (Traced Host Call)).evaluate_course
      (Backends.lead_anyState agreeing).records "/s.yaml" longInstructions []
      ⟨.empty, Host.bare, []⟩ trivial
  rw [List.map_id] at course
  cases course with
  | refused refused => exact ⟨_, after, run, trace⟩
  | unannounced asked => cases unwritten.symm.trans asked
  | ended asked => cases unwritten.symm.trans asked
  | next asked => cases unwritten.symm.trans asked

end Session

end Converge
