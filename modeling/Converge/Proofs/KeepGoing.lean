import Converge.Proofs.ExitStatus

/-!
# Keeping going

A session that stops at the first failed call and one that keeps going come to the same up to that call. From
there on the first adds nothing, while the record of the other only grows (`Halts`): each call of a script halts
so, and so does whatever is put together from calls without handling what they raise (`Routine.Unhandled`). A run that
stops has thus the beginning of what the run that keeps going has, and it is without a failure exactly when the other
is (`run_keepGoing`).
-/

namespace Converge

/-! ## Scripts without handlers -/

/-- A fault with which a failed call stops its script. -/
def Fault.Stops : Fault → Prop
  | .enforcement _ | .blockEnforcement => True
  | _ => False

/-- What a call raises ends the program. -/
def Routine.Unhandled : Routine → Prop
  | .done => True
  | .raise _ => True
  | .own _ next => ∀ x, (next x).Unhandled
  | .resource _ _ next => (∀ fault, next (.error fault) = .raise fault) ∧ ∀ e, (next (.ok e)).Unhandled
  | .apply _ _ next => (∀ fault, next (.error fault) = .raise fault) ∧ ∀ b, (next (.ok b)).Unhandled

/-- What a call of a script raises ends it, given the facts. -/
def Script.Unhandled (facts : Table Value) : Script → Prop
  | .instructions _ _ => True
  | .calls _ program => (program facts).Unhandled

/-- Lines one after the other handle nothing. -/
theorem Routine.unhandled_ofLines (scope : Expr.Scope) (lines : List Statement) : (ofLines scope lines).Unhandled :=
  of_ofLines trivial (fun _ => trivial) (fun _ _ _ later => ⟨fun _ => rfl, fun _ => later⟩)
    (fun _ _ _ later => ⟨fun _ => rfl, fun _ => later⟩) scope lines

/-! ## Records that grow -/

section

variable {σ ε α β : Type}

/-- What one run has on record is the beginning of what another has. -/
structure Grows (t u : Run (Traced σ ε)) : Prop where
  calls : t.world.trace <+: u.world.trace
  errors : t.ledger.errors <+: u.ledger.errors
  resources : t.ledger.resources <+: u.ledger.resources

namespace Grows

instance : Std.Refl (Grows (σ := σ) (ε := ε)) := ⟨fun _ => ⟨List.prefix_rfl, List.prefix_rfl, List.prefix_rfl⟩⟩

instance : IsTrans (Run (Traced σ ε)) Grows :=
  ⟨fun _ _ _ first second => ⟨first.calls.trans second.calls, first.errors.trans second.errors,
    first.resources.trans second.resources⟩⟩

theorem of_same {t u : Run (Traced σ ε)} (ledger : u.ledger = t.ledger) (trace : u.world.trace = t.world.trace) :
    Grows t u := by
  constructor
  · rw [trace]
  · rw [ledger]
  · rw [ledger]

/-- A grown record has every failure that was there. -/
theorem ne_nil {t u : Run (Traced σ ε)} (grows : Grows t u) (failed : t.ledger.errors ≠ []) : u.ledger.errors ≠ [] :=
  fun free => failed (List.prefix_nil.mp (free ▸ grows.errors))

variable [Hosted σ]

theorem print (text : String) : Leaves Grows (Action.print text : Action (Run (Traced σ ε)) Unit) := by
  intro t
  simp only [Action.print, Action.result_of]
  split
  · exact of_same rfl rfl
  · exact of_same rfl rfl

theorem printIf (asked : Bool) (text : Except Fault String) :
    Leaves Grows (Session.printIf asked text : Action (Run (Traced σ ε)) Unit) :=
  .ite (.bind (.ofExcept _) fun _ => print _) (.pure _)

/-- What happens on the host alone is on no record. -/
theorem onHost (a : Action Host α) : Leaves Grows (Action.onHost a : Action (Run (Traced σ ε)) α) :=
  fun _ => of_same rfl rfl

omit [Hosted σ] in
theorem recordFailures (messages : List String) :
    Leaves Grows (Session.record (·.recordFailures messages) : Action (Run (Traced σ ε)) Unit) :=
  fun _ => ⟨List.prefix_rfl, List.prefix_append _ _, List.prefix_rfl⟩

omit [Hosted σ] in
theorem recordResources (resources : List Resource) :
    Leaves Grows (Session.record (·.recordResources resources) : Action (Run (Traced σ ε)) Unit) :=
  fun _ => ⟨List.prefix_rfl, List.prefix_rfl, List.prefix_append _ _⟩

omit [Hosted σ] in
/-- A call on the record is one call more. -/
theorem noted (describe : Except Fault α → ε) (a : Action σ α) :
    Leaves Grows (Session.onWorld (Converge.noted describe a)) :=
  fun _ => ⟨List.prefix_append _ _, List.prefix_rfl, List.prefix_rfl⟩

end Grows

/-! ## Stopping -/

/-- An action has stopped at a failed call, which has left a failure. -/
structure Stopped (ended : Except Fault α × Run (Traced σ ε)) : Prop where
  fault : ∃ fault, ended.1 = .error fault ∧ fault.Stops
  failed : ended.2.ledger.errors ≠ []

/-- An action comes to the same as one that keeps going, or has stopped where the record of the other begins. -/
structure Halts (a b : Action (Run (Traced σ ε)) α) : Prop where
  grows : Leaves Grows b
  meets : ∀ t, a.result t = b.result t ∨ (Stopped (a.result t) ∧ Grows (a.result t).2 (b.result t).2)

namespace Halts

variable {a b : Action (Run (Traced σ ε)) α}

theorem same (grows : Leaves Grows a) : Halts a a := ⟨grows, fun _ => .inl rfl⟩

theorem pure (x : α) : Halts (Pure.pure x : Action (Run (Traced σ ε)) α) (Pure.pure x) := same (.pure x)

theorem throw (fault : Fault) :
    Halts (MonadExcept.throw fault : Action (Run (Traced σ ε)) α) (MonadExcept.throw fault) :=
  same (.throw fault)

theorem ofExcept (r : Except Fault α) : Halts (.ofExcept r : Action (Run (Traced σ ε)) α) (.ofExcept r) :=
  same (.ofExcept r)

theorem bind {f g : α → Action (Run (Traced σ ε)) β} (first : Halts a b) (later : ∀ x, Halts (f x) (g x)) :
    Halts (a >>= f) (b >>= g) := by
  refine ⟨.bind first.grows fun x => (later x).grows, fun t => ?_⟩
  rcases first.meets t with same | ⟨stopped, begins⟩
  · -- Both go on from the same state.
    rw [Action.result_bind, Action.result_bind, same]
    cases b.result t with
    | mk outcome after =>
      cases outcome with
      | error fault => exact .inl rfl
      | ok x => exact (later x).meets after
  · -- The first goes no further, and the other only adds to its record.
    obtain ⟨fault, ended, stops⟩ := stopped.fault
    have run : a.result t = (.error fault, (a.result t).2) := Prod.ext ended rfl
    rw [Action.result_bind_of_error run]
    refine .inr ⟨⟨⟨fault, rfl, stops⟩, stopped.failed⟩, IsTrans.trans _ _ _ begins ?_⟩
    rw [Action.result_bind]
    cases b.result t with
    | mk outcome after =>
      cases outcome with
      | error other => exact Std.Refl.refl after
      | ok x => exact (later x).grows after

theorem forM {f g : β → Action (Run (Traced σ ε)) Unit} (l : List β) (each : ∀ x, Halts (f x) (g x)) :
    Halts (l.forM f) (l.forM g) := by
  induction l with
  | nil => exact pure ()
  | cons x l ih => exact bind (each x) fun _ => ih

/-- In a script a failed call stops as it does by itself. -/
theorem inScript (path : String) {a b : Action (Run (Traced σ ε)) Unit} (halts : Halts a b) :
    Halts (Session.inScript path a) (Session.inScript path b) := by
  refine ⟨.bind (.attempt halts.grows) fun outcome => ?_, fun t => ?_⟩
  · cases outcome with
    | ok done => exact .pure _
    | error fault => exact .throw _
  · rw [Session.inScript_result, Session.inScript_result]
    rcases halts.meets t with same | ⟨stopped, begins⟩
    · exact .inl (by rw [same])
    · obtain ⟨fault, ended, stops⟩ := stopped.fault
      refine .inr ⟨⟨⟨fault, ?_, stops⟩, stopped.failed⟩, begins⟩
      rw [ended]
      cases fault with
      | enforcement ref => rfl
      | blockEnforcement => rfl
      | _ => exact absurd stops id

end Halts

end

namespace Session

/-! ## Calls -/

/-- The session that keeps going after a failed call, or that stops there. -/
def keeping {σ : Type} (s : Session σ) (on : Bool) : Session σ :=
  { s with options := { s.options with keepGoing := on } }

section

variable {σ ε : Type} [Hosted σ] (s : Session (Traced σ ε))

/-- A failed reply leaves a failure, and stops one session alone. -/
theorem halts_conclude {y : Reply} (told : y.messages ≠ []) (stops : y.stop.Stops) :
    Halts ((s.keeping false).conclude y) ((s.keeping true).conclude y) := by
  refine .bind (.same (.printIf _ _)) fun _ => ?_
  rcases Bool.eq_false_or_eq_true y.succeeded with succeeded | failed
  · simp only [succeeded, Bool.not_true, Bool.false_eq_true, if_false]
    exact .same (.recordResources _)
  · simp only [failed, Bool.not_false, if_true]
    refine ⟨.bind (.recordFailures _) fun _ => ?_, fun t => .inr ⟨⟨⟨y.stop, rfl, stops⟩, ?_⟩, ?_⟩⟩
    · exact .ite (.bind (.throw _) fun _ => Grows.recordResources _) (Grows.recordResources _)
    · exact List.append_ne_nil_of_right_ne_nil _ told
    · exact ⟨List.prefix_rfl, List.prefix_rfl, List.prefix_append _ _⟩

variable {s} (enforces : ∀ r, Leaves Grows (onWorld (s.backends.enforce r)))
  (applies : ∀ code, Leaves Grows (onWorld (s.backends.applyBlock code)))

include enforces

theorem halts_enforce (r : Resource) : Halts ((s.keeping false).enforce r) ((s.keeping true).enforce r) := by
  rw [enforce_eq, enforce_eq]
  refine .bind (.same (.printIf _ _)) fun _ => .bind (.same (enforces r)) fun result => .bind ?_ fun _ => .pure _
  exact s.halts_conclude (by simp [Enforcement.reply]) trivial

theorem halts_resource (type name params : Value) (extra : Table Value) :
    Halts ((s.keeping false).resource type name params extra) ((s.keeping true).resource type name params extra) := by
  refine .bind (.ofExcept _) fun entries => ?_
  dsimp only
  split
  · exact .throw _
  · exact halts_enforce enforces _

omit enforces
include applies

theorem halts_apply (code : Value) : Halts ((s.keeping false).apply code) ((s.keeping true).apply code) := by
  have block : Leaves Grows (s.blockResult code) := by
    unfold blockResult
    split
    · exact applies _
    · split
      · exact applies _
      · split
        · exact .ofExcept _
        · exact .throw _
  rw [apply_eq, apply_eq]
  refine .bind (.same (.printIf _ _)) fun _ => .bind (.same block) fun result => .bind ?_ fun _ => .pure _
  refine s.halts_conclude ?_ trivial
  simp only [BlockResult.reply]
  split
  · simp
  · next some => simpa using some

include enforces

theorem halts_perform (i : Instruction) : Halts ((s.keeping false).perform i) ((s.keeping true).perform i) := by
  unfold perform
  split
  · exact .bind (halts_resource enforces _ _ _ _) fun _ => .pure _
  · exact .bind (halts_apply applies _) fun _ => .pure _
  · split
    · exact .bind (halts_apply applies _) fun _ => .pure _
    · exact .throw _

theorem halts_proceed {program : Routine} (unhandled : program.Unhandled) :
    Halts ((s.keeping false).proceed program) ((s.keeping true).proceed program) := by
  induction program with
  | done => exact .pure ()
  | raise fault => exact .throw fault
  | own step next ih =>
    rw [proceed, proceed]
    exact .bind (.same (.attempt (Grows.onHost step))) fun x => ih x (unhandled x)
  | resource positional named next ih =>
    rw [proceed, proceed, attempt_raising _ _ unhandled.1, attempt_raising _ _ unhandled.1]
    refine .bind (.bind (.ofExcept _) fun bound => ?_) fun e => ih _ (unhandled.2 e)
    exact halts_resource enforces _ _ _ _
  | apply positional named next ih =>
    rw [proceed, proceed, attempt_raising _ _ unhandled.1, attempt_raising _ _ unhandled.1]
    refine .bind (.bind (.ofExcept _) fun bound => ?_) fun b => ih _ (unhandled.2 b)
    exact halts_apply applies _

theorem halts_evaluate {script : Script} (unhandled : script.Unhandled s.runtime.facts) :
    Halts ((s.keeping false).evaluate script) ((s.keeping true).evaluate script) := by
  cases script with
  | instructions path is => exact .forM _ fun i => .inScript path (halts_perform enforces applies i)
  | calls path program => exact .inScript path (halts_proceed enforces applies unhandled)

end

/-! ## Runs -/

section

variable {σ ε : Type} [Hosted σ]

/-- What stops a script is a failed call, a fault of the script, or what is raised in place of its text. -/
def EndsScript : Fault → Prop
  | .enforcement _ | .blockEnforcement | .script _ | .foreign .. => True
  | _ => False

omit [Hosted σ] in
theorem endsScript_inScript (path : String) (a : Action σ Unit) : Raises EndsScript (inScript path a) := by
  intro s fault raised
  rw [inScript_result] at raised
  cases ended : (a.result s).1 with
  | ok done =>
    rw [ended] at raised
    cases raised
  | error other =>
    rw [ended] at raised
    cases raised
    cases other <;> trivial

theorem endsScript_evaluate (s : Session σ) (script : Script) : Raises EndsScript (s.evaluate script) := by
  cases script with
  | instructions path is => exact .forM _ fun i => endsScript_inScript path _
  | calls path program => exact endsScript_inScript path _

/-- What ends a script is settled, which adds to the record at most, or goes on. -/
theorem settle_grows {outcome : Except Fault Unit} (ends : ∀ fault, outcome = .error fault → EndsScript fault)
    (t : Run (Traced σ ε)) : (∃ after, (settle outcome).result t = (.ok (), after) ∧ Grows t after) ∨
      ∃ kind text, (settle outcome).result t = (.error (.foreign kind text), t) := by
  cases outcome with
  | ok done => exact .inl ⟨t, rfl, Std.Refl.refl t⟩
  | error fault =>
    cases fault with
    | enforcement ref => exact .inl ⟨_, rfl, .of_same rfl rfl⟩
    | blockEnforcement => exact .inl ⟨_, rfl, .of_same rfl rfl⟩
    | script message => exact .inl ⟨_, rfl, .recordFailures [message] t⟩
    | foreign kind text => exact .inr ⟨kind, text, rfl⟩
    | _ => exact absurd (ends _ rfl) id

/-- After the script a run settles its outcome and closes, unless that goes on. -/
theorem finish_result {outcome : Except Fault Unit} (ends : ∀ fault, outcome = .error fault → EndsScript fault)
    (t : Run (Traced σ ε)) : ∃ ended, (do
      settle outcome
      close : Action (Run (Traced σ ε)) Nat).result t = ended ∧ Grows t ended.2 ∧
      (ended.1 = .ok ended.2.ledger.errors.length ∨ ∃ kind text, ended.1 = .error (.foreign kind text)) := by
  rcases settle_grows ends t with ⟨settled, settle, grows⟩ | ⟨kind, text, escaped⟩
  · obtain ⟨after, closed, ledger, trace, -⟩ := close_result settled
    refine ⟨_, Action.result_bind_of_ok settle, ?_⟩
    rw [closed]
    exact ⟨IsTrans.trans _ _ _ grows (.of_same ledger trace), .inl (by rw [ledger])⟩
  · exact ⟨_, Action.result_bind_of_error escaped, Std.Refl.refl t, .inr ⟨kind, text, rfl⟩⟩

/-- A script that has stopped at a failed call leaves nothing more. -/
theorem finish_stopped {ended : Except Fault Unit × Run (Traced σ ε)} (stopped : Stopped ended) : ∃ after, (do
      settle ended.1
      close : Action (Run (Traced σ ε)) Nat).result ended.2 = (.ok after.ledger.errors.length, after) ∧
      Grows after ended.2 ∧ after.ledger.errors ≠ [] := by
  have told (message : String) : ∃ after, (do
      Action.printError message
      close : Action (Run (Traced σ ε)) Nat).result ended.2 = (.ok after.ledger.errors.length, after) ∧
      Grows after ended.2 ∧ after.ledger.errors ≠ [] := by
    obtain ⟨between, printed, left, kept⟩ := printError_result message ended.2
    obtain ⟨after, closed, ledger, trace, -⟩ := close_result between
    refine ⟨after, ?_, .of_same (ledger.trans left.ledger).symm (trace.trans kept).symm, ?_⟩
    · rw [Action.result_bind_of_ok printed, closed, ledger]
    · rw [ledger, left.ledger]
      exact stopped.failed
  obtain ⟨fault, raised, stops⟩ := stopped.fault
  rw [raised]
  cases fault with
  | enforcement ref => exact told _
  | blockEnforcement => exact told _
  | _ => exact absurd stops id

/-- How two runs end: alike, or the first with the number of its failures, where it has some and what it has on record
is the beginning of what the other has. The other then ends so too, or with what a fault without a text raises. -/
inductive Meets : (first second : Except Fault Nat × Run (Traced σ ε)) → Prop
  | alike (ended : Except Fault Nat × Run (Traced σ ε)) : Meets ended ended
  | apart {after : Run (Traced σ ε)} {other : Except Fault Nat × Run (Traced σ ε)} (failed : after.ledger.errors ≠ [])
    (grows : Grows after other.2)
    (ends : other.1 = .ok other.2.ledger.errors.length ∨ ∃ kind text, other.1 = .error (.foreign kind text)) :
    Meets (.ok after.ledger.errors.length, after) other

/-- Where the one session halts in a script as the other goes on, their runs of the script meet. -/
theorem meets_body {s s' : Session (Traced σ ε)} (same : s.runtime = s'.runtime) (path : String)
    (start : Run (Traced σ ε)) (halts : ∀ script, ((Script.load s'.runtime path).result (Hosted.host start)).1 = .ok script →
      Halts (s.evaluate script) (s'.evaluate script)) :
    Meets (((s.body path).attempt >>= fun outcome => do
        settle outcome
        close).result start)
      (((s'.body path).attempt >>= fun outcome => do
        settle outcome
        close).result start) := by
  rw [Action.result_bind, Action.result_bind, Action.result_attempt, Action.result_attempt, body, body,
    Action.result_bind, Action.result_bind, same, Action.result_onHost]
  cases loaded : ((Script.load s'.runtime path).result (Hosted.host start)).1 with
  | error fault => exact .alike _
  | ok script =>
    obtain ⟨begun, log⟩ : ∃ begun, (Action.log .debug ("Evaluating " ++ path)).result
      (Hosted.withHost start ((Script.load s'.runtime path).result (Hosted.host start)).2) = (.ok (), begun) := ⟨_, rfl⟩
    dsimp only
    rw [Action.result_bind_of_ok log, Action.result_bind_of_ok log]
    rcases (halts script loaded).meets begun with same | ⟨stopped, grows⟩
    · rw [same]
      exact .alike _
    · obtain ⟨after, finished, kept, failed⟩ := finish_stopped stopped
      obtain ⟨ended, finished', grown, ends⟩ := finish_result (s'.endsScript_evaluate script begun)
        ((s'.evaluate script).result begun).2
      rw [finished, finished']
      exact .apart failed (IsTrans.trans _ _ _ kept (IsTrans.trans _ _ _ grows grown)) ends

/-- The runs of one script by two such sessions meet. -/
theorem meets_run {s s' : Session (Traced σ ε)} (same : s.runtime = s'.runtime) (path : String) (extra : List String)
    (t : Run (Traced σ ε)) (halts : ∀ script,
      ((Script.load s'.runtime (Path.normal path)).result (Hosted.host t)).1 = .ok script →
        Halts (s.evaluate script) (s'.evaluate script)) :
    Meets ((s.run path extra).result t) ((s'.run path extra).result t) := by
  have present := onHost_result (Looks.exists? (Path.normal path)) rfl t rfl rfl
  cases found : ((Host.exists? (Path.normal path)).result (Hosted.host t)).1 with
  | error fault =>
    rw [found] at present
    have raised (s : Session (Traced σ ε)) : (s.run path extra).result t = (.error fault, t) :=
      Action.result_bind_of_error present
    rw [raised s, raised s']
    exact .alike _
  | ok there =>
    cases there with
    | false =>
      rw [found] at present
      have missing (s : Session (Traced σ ε)) :
          (s.run path extra).result t = (.error (.scriptNotFound (Path.normal path)), t) :=
        Action.result_bind_of_ok present
      rw [missing s, missing s']
      exact .alike _
    | true =>
      obtain ⟨start, -, -, begins, begun⟩ := run_present path extra t found
      rw [begun s, begun s']
      refine meets_body same _ start fun script loaded => halts script ?_
      have alike := Looks.load s'.runtime (Path.normal path) _ _ begins.files begins.cwd
      exact (congrArg Prod.fst alike).symm.trans loaded

omit [Hosted σ] in
/-- Runs that meet return no failures together, and the first returns no more than the second. -/
theorem Meets.returned {first second : Except Fault Nat × Run (Traced σ ε)} (meets : Meets first second) :
    (first.1 = .ok 0 ↔ second.1 = .ok 0) ∧ (first.1 = .ok 0 → second = first) ∧
    ((∃ fault, first.1 = .error fault ∧ second.1 = .error fault) ∨
      (∃ m n, first.1 = .ok m ∧ second.1 = .ok n ∧ m ≤ n) ∨
      ∃ m kind text, first.1 = .ok m ∧ m ≠ 0 ∧ second.1 = .error (.foreign kind text)) := by
  cases meets with
  | alike ended =>
    refine ⟨.rfl, fun _ => rfl, ?_⟩
    cases outcome : first.1 with
    | error fault => exact .inl ⟨fault, rfl, rfl⟩
    | ok n => exact .inr (.inl ⟨n, n, rfl, rfl, le_rfl⟩)
  | @apart after other failed grows ends =>
    have counted : ∀ {l : List String}, l ≠ [] → l.length ≠ 0 := fun some none => some (List.length_eq_zero_iff.mp none)
    have failures : ∀ {l : List String}, l ≠ [] → (.ok l.length : Except Fault Nat) ≠ .ok 0 := fun some none =>
      counted some (Except.ok.inj none)
    refine ⟨iff_of_false (failures failed) ?_, fun none => absurd none (failures failed), .inr ?_⟩
    · rcases ends with ended | ⟨kind, text, escaped⟩
      · rw [ended]
        exact failures (grows.ne_nil failed)
      · simp [escaped]
    · rcases ends with ended | ⟨kind, text, escaped⟩
      · exact .inl ⟨_, _, rfl, ended, grows.errors.length_le⟩
      · exact .inr ⟨_, kind, text, rfl, counted failed, escaped⟩

/-- The runs meet of a script that handles nothing, once stopped by a failed call and once not. -/
theorem meets_keeping (s : Session (Traced σ ε)) (enforces : ∀ r, Leaves Grows (onWorld (s.backends.enforce r)))
    (applies : ∀ code, Leaves Grows (onWorld (s.backends.applyBlock code))) (path : String) (extra : List String)
    (t : Run (Traced σ ε))
    (unhandled : ∀ script, ((Script.load s.runtime (Path.normal path)).result (Hosted.host t)).1 = .ok script →
      script.Unhandled s.runtime.facts) :
    Meets (((s.keeping false).run path extra).result t) (((s.keeping true).run path extra).result t) :=
  have same : (s.keeping false).runtime = (s.keeping true).runtime := rfl
  meets_run same path extra t fun script loaded => halts_evaluate enforces applies (unhandled script loaded)

omit [Hosted σ] in
/-- Runs that meet leave records of which the first is the beginning of the second. -/
theorem Meets.grows {first second : Except Fault Nat × Run (Traced σ ε)} (meets : Meets first second) :
    Grows first.2 second.2 := by
  cases meets with
  | alike ended => exact Std.Refl.refl _
  | apart failed grows ends => exact grows

/-- A script that handles nothing that its calls raise is run once so that the first failed call stops it and once so
that it keeps going, from one state and with the calls on the record. The calls, failures and resources of the first run
are the beginning of those of the second; either run is without a failure exactly when the other is, and then nothing
tells them apart; and both raise the same fault, or the first returns no more than the second. The second returns
nothing where the script raises, after a call has failed, a fault that has no text. -/
theorem run_keepGoing (s : Session σ) (path : String) (extra : List String) (t : Run σ)
    (unhandled : ∀ script, ((Script.load s.runtime (Path.normal path)).result (Hosted.host t)).1 = .ok script →
      script.Unhandled s.runtime.facts) :
    ∃ (outcome outcome' : Except Fault Nat) (after after' : Run σ) (calls calls' : List Call),
      ((s.keeping false).run path extra).result t = (outcome, after) ∧
      (((s.keeping false).against s.backends.recorded).run path extra).result ⟨t.ledger, t.world, []⟩ =
        (outcome, ⟨after.ledger, after.world, calls⟩) ∧
      ((s.keeping true).run path extra).result t = (outcome', after') ∧
      (((s.keeping true).against s.backends.recorded).run path extra).result ⟨t.ledger, t.world, []⟩ =
        (outcome', ⟨after'.ledger, after'.world, calls'⟩) ∧
      calls <+: calls' ∧ after.ledger.errors <+: after'.ledger.errors ∧
      after.ledger.resources <+: after'.ledger.resources ∧
      (outcome = .ok 0 ↔ outcome' = .ok 0) ∧ (outcome = .ok 0 → calls' = calls ∧ after' = after) ∧
      ((∃ fault, outcome = .error fault ∧ outcome' = .error fault) ∨
        (∃ m n, outcome = .ok m ∧ outcome' = .ok n ∧ m ≤ n) ∨
        ∃ m kind text, outcome = .ok m ∧ m ≠ 0 ∧ outcome' = .error (.foreign kind text)) := by
  have plain (on : Bool) := run_follows Traced.projects (s.keeping on) (Backends.recorded_follow s.backends) path extra
    ⟨t.ledger, t.world, []⟩
  have enforces (r : Resource) : Leaves Grows (onWorld ((s.against s.backends.recorded).backends.enforce r)) :=
    Grows.noted _ _
  have applies (code : Value) : Leaves Grows (onWorld ((s.against s.backends.recorded).backends.applyBlock code)) :=
    Grows.noted _ _
  have meets := (s.against s.backends.recorded).meets_keeping enforces applies path extra ⟨t.ledger, t.world, []⟩
    unhandled
  obtain ⟨⟨outcome, ledger, world, calls⟩, run⟩ : ∃ ended,
    (((s.keeping false).against s.backends.recorded).run path extra).result ⟨t.ledger, t.world, []⟩ = ended := ⟨_, rfl⟩
  obtain ⟨⟨outcome', ledger', world', calls'⟩, run'⟩ : ∃ ended,
    (((s.keeping true).against s.backends.recorded).run path extra).result ⟨t.ledger, t.world, []⟩ = ended := ⟨_, rfl⟩
  change Meets ((((s.keeping false).against s.backends.recorded).run path extra).result _)
    ((((s.keeping true).against s.backends.recorded).run path extra).result _) at meets
  have first := plain false
  have second := plain true
  rw [run] at first meets
  rw [run'] at second meets
  obtain ⟨free, same, ends⟩ := meets.returned
  have grows := meets.grows
  refine ⟨outcome, outcome', ⟨ledger, world⟩, ⟨ledger', world'⟩, calls, calls', first, run, second, run', grows.calls,
    grows.errors, grows.resources, free, fun none => ?_, ends⟩
  cases same none
  exact ⟨rfl, rfl⟩

end

/-- A script that applies a block where a resource failed, although it goes on. -/
def secondTry : Routine :=
  .resource [.text "notify", .text "a"] [] fun
    | .error fault => .raise fault
    | .ok e =>
      if e.succeeded then .done
      else .apply [.text "notify: \x7b\x7d"] [] fun
        | .error fault => .raise fault
        | .ok _ => .done

/-- What a program runs that reads every script of calls so. -/
def trying : Runtime := ⟨∅, "converge", fun _ _ => .ok fun _ => secondTry, .asPut⟩

/-- Backends that fail at everything. -/
def refusing : Backends Host := ⟨fun r => pure (.refused "no" r), fun _ => pure (.refused ["no"])⟩

/-- A host with a script of calls. -/
def oneProgram : Host :=
  { Host.bare with files := ⟨[([], .directory 0o755), (["s.py"], .file ByteArray.empty 0o644)], 0o022⟩ }

theorem run_keepGoing_secondTry :
    (∀ script, ((Script.load trying (Path.normal "/s.py")).result oneProgram).1 = .ok script → script.Unhandled ∅) ∧
    ∃ calls calls' : List Call, calls <+: calls' ∧ calls.length = 1 ∧ calls'.length = 2 := by
  have unhandled : ∀ script, ((Script.load trying (Path.normal "/s.py")).result oneProgram).1 = .ok script →
      script.Unhandled ∅ := by
    intro script loaded
    rw [Script.load, Action.result_bind_of_ok (Action.result_attempt _ _)] at loaded
    cases read : ((Host.readText (Path.normal "/s.py")).result oneProgram).1 with
    | error fault =>
      rw [read] at loaded
      cases loaded
    | ok source =>
    rw [read] at loaded
    dsimp only at loaded
    rw [Action.result_ofExcept, Script.ofText, if_neg (by decide +kernel)] at loaded
    cases loaded
    refine ⟨fun _ => rfl, fun e => ?_⟩
    dsimp only
    split
    · trivial
    · exact ⟨fun _ => rfl, fun _ => trivial⟩
  have first : ∀ ended, (((⟨refusing, .default, trying⟩ : Session Host).keeping false).against
      (refusing : Backends Host).recorded |>.run "/s.py" [] |>.result ⟨.empty, oneProgram, []⟩) = ended →
      ended.2.world.trace.length = 1 := by
    rintro _ rfl
    decide +kernel
  have second : ∀ ended, (((⟨refusing, .default, trying⟩ : Session Host).keeping true).against
      (refusing : Backends Host).recorded |>.run "/s.py" [] |>.result ⟨.empty, oneProgram, []⟩) = ended →
      ended.2.world.trace.length = 2 := by
    rintro _ rfl
    decide +kernel
  obtain ⟨_, _, _, _, calls, calls', -, run, -, run', begins, -⟩ :=
    (⟨refusing, .default, trying⟩ : Session Host).run_keepGoing "/s.py" [] ⟨.empty, oneProgram⟩ unhandled
  exact ⟨unhandled, calls, calls', begins, first _ run, second _ run'⟩

end Session

end Converge
