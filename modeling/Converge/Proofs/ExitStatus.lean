import Converge.CommandLine.Answer
import Converge.Proofs.Local
import Converge.Proofs.Sessions

/-!
# The exit status of a run

A run in this process records for each call what it led to (`Deed`). Its ledger is empty exactly when
every record was carried out and every resource that was asked for was applied once and without a failure
(`errors_eq_nil_iff`), and its exit status tells this (`run_status`).
-/

namespace Converge

/-- A call of a backend in this process, with the applications of resources that it led to. -/
structure Deed where
  call : Call
  applications : List Transaction.Application

/-- The resource of a call, or each one of the catalog that its block makes, was applied exactly once and
without a failure. -/
def Deed.Clean (sets : Value.SetOrder) (node : String) (d : Deed) : Prop :=
  match d.call with
  | .resource r _ => Local.Clean [r] d.applications
  | .block code _ => ∃ c, (Catalog.compile sets node true code).2 = .ok c ∧ c.finalize.1 = .ok () ∧
      Local.Clean c.declared d.applications

/-- A call succeeded exactly when what it led to is clean, and what it raised counts. -/
structure Deed.Sound (sets : Value.SetOrder) (node : String) (d : Deed) : Prop where
  succeeds : (∃ y, d.call.reply = .ok y ∧ y.succeeded = true) ↔ d.Clean sets node
  counts : Fails Fault.Counts d.call.reply

theorem reply_succeeds {α : Type} {answer : Except Fault α} {f : α → Reply} {succeeded : α → Bool}
    (same : ∀ x, (f x).succeeded = succeeded x) :
    (∃ y, answer.map f = .ok y ∧ y.succeeded = true) ↔ ∃ x, answer = .ok x ∧ succeeded x = true := by
  cases answer with
  | error fault => simp [Except.map]
  | ok x => simp [Except.map, same]

namespace Local

variable {σ α : Type}

/-- A call that is recorded with the applications that it leads to. -/
def deed (describe : Except Fault α → Call) (a : Action (Traced σ Transaction.Application) α) :
    Action (Traced σ Deed) α :=
  .of fun t =>
    let (answer, after) := a.result ⟨t.world, []⟩
    (answer, ⟨after.world, t.trace ++ [⟨describe answer, after.trace⟩]⟩)

theorem deed_follows (describe : Except Fault α → Call) {a : Action (Traced σ Transaction.Application) α}
    {b : Action σ α} (follows : Follows Traced.world a b) : Follows Traced.world (deed describe a) b :=
  fun t => follows ⟨t.world, []⟩

variable [Hosted σ] (sets : Value.SetOrder) (node : String) (noop : Bool)

/-- The backends in this process, where each call is recorded with what it leads to. -/
def recorded : Backends (Traced σ Deed) where
  enforce r := deed (.resource r) ((watched sets node noop).enforce r)
  applyBlock code := deed (.block code) ((watched sets node noop).applyBlock code)

theorem recorded_follow :
    Backends.Follow Traced.world (recorded sets node noop) (backends sets node noop : Backends σ) :=
  ⟨fun r => deed_follows _ (watched_enforce sets node noop r),
    fun code => deed_follows _ (watched_applyBlock sets node noop code)⟩

theorem recorded_records : Records Deed.call (Deed.Sound sets node) anyState
    (recorded sets node noop : Backends (Traced σ Deed)) := by
  refine ⟨fun r t _ => ?_, fun code t _ => ?_, fun _ _ _ _ _ => trivial⟩
  · obtain ⟨answer, world, applications, run, succeeds, counts, -⟩ := enforce_result sets node noop r ⟨t.world, []⟩
    refine ⟨answer, world, ⟨.resource r answer, applications⟩, ?_, rfl,
      ⟨(reply_succeeds fun _ => rfl).trans succeeds, counts.map⟩, trivial⟩
    simp [recorded, deed, run]
  · obtain ⟨answer, world, applications, run, succeeds, counts, -⟩ :=
      applyBlock_result sets node noop code ⟨t.world, []⟩
    refine ⟨answer, world, ⟨.block code answer, applications⟩, ?_, rfl,
      ⟨(reply_succeeds fun _ => rfl).trans succeeds, counts.map⟩, trivial⟩
    simp [recorded, deed, run]

end Local

namespace Session

/-! ## Ledgers without a failure -/

theorem wordings_of_counts {fault : Fault} (counts : fault.Counts) (path : String) :
    wordings path (.error fault) ≠ [] := by
  cases fault with
  | enforcement ref => exact absurd counts id
  | blockEnforcement => exact absurd counts id
  | untold kind cause text => exact absurd counts id
  | _ => simp [wordings, Fault.text]

theorem isTold_of_counts {fault : Fault} (counts : fault.Counts) : fault.IsTold := by
  cases fault with
  | untold kind cause text => exact absurd counts id
  | _ => rfl

theorem escaped?_of_isTold {fault : Fault} (told : fault.IsTold) : escaped? (.error fault) = none := by
  rw [escaped?, told]

theorem failures_of_reply {c : Call} {y : Reply} (replied : c.reply = .ok y) :
    y.failures = [] ↔ y.succeeded = true := by
  have messages : y.messages ≠ [] := by
    cases c with
    | resource r answer =>
      obtain ⟨e, -, rfl⟩ := map_ok_iff.mp replied
      simp [Enforcement.reply]
    | block code answer =>
      obtain ⟨b, -, rfl⟩ := map_ok_iff.mp replied
      simp only [BlockResult.reply]
      split
      · simp
      · next some => simpa using some
  rw [Reply.failures]
  split
  · next succeeded => simp [succeeded]
  · next failed => simp [failed, messages]

theorem counts_literal {c : Call} {y : Reply} (replied : c.reply = .ok y) : Fails Fault.Counts y.literal := by
  have one (r : Resource) : Fails Fault.Counts r.literal := .bind (counts_shown _) fun _ => .ok _
  cases c with
  | resource r answer =>
    obtain ⟨e, -, rfl⟩ := map_ok_iff.mp replied
    exact .bind (one _) fun _ => .ok _
  | block code answer =>
    obtain ⟨b, -, rfl⟩ := map_ok_iff.mp replied
    exact .bind (.mapM _ one) fun _ => .ok _

theorem counts_replyShown {options : Options} {c : Call} {y : Reply} (replied : c.reply = .ok y) :
    Fails Fault.Counts (y.shown options) := .ite (counts_literal replied).map (.ok ())

/-- A call leaves no failure exactly when it is carried out and succeeds, where all that is raised counts. -/
theorem call_errors_eq_nil_iff (options : Options) {c : Call} (counts : Fails Fault.Counts c.reply) (path : String) :
    ((c.recorded? options).toList.flatMap Reply.failures ++ wordings path (c.verdict options) = []) ↔
      c.verdict options = .ok () ∧ ∃ y, c.reply = .ok y ∧ y.succeeded = true := by
  rw [Call.verdict, Call.recorded?]
  cases replied : c.reply with
  | error fault =>
    have word := wordings_of_counts (counts fault replied) path
    simp [bind, Except.bind, word]
  | ok y =>
    cases shown : y.shown options with
    | error fault =>
      have word := wordings_of_counts (counts_replyShown replied fault shown) path
      simp [bind, Except.bind, Reply.verdict, shown, Except.toOption, word]
    | ok done =>
      have failures := failures_of_reply replied
      cases succeeded : y.succeeded with
      | true =>
        simp [bind, Except.bind, Reply.verdict, shown, Except.toOption, failures, succeeded, Reply.goesOn, wordings]
      | false => simp [bind, Except.bind, Except.toOption, shown, failures, succeeded]

/-- What a call ends the script with has a text, where all that is raised has one. -/
theorem escaped?_verdict {options : Options} {c : Call} (told : Fails Fault.IsTold c.reply) {fault : Fault}
    (ends : c.verdict options = .error fault) : escaped? (.error fault) = none := by
  rw [Call.verdict] at ends
  cases replied : c.reply with
  | error raised =>
    rw [replied] at ends
    cases ends
    exact escaped?_of_isTold (told _ replied)
  | ok y =>
    rw [replied] at ends
    have verdict : y.verdict options = .error fault := ends
    cases shown : y.shown options with
    | error unshown =>
      rw [Reply.verdict, shown] at verdict
      cases verdict
      exact escaped?_of_isTold (isTold_of_counts (counts_replyShown replied _ shown))
    | ok done =>
      have stopped : (if y.goesOn options then .ok () else .error y.stop) = (.error fault : Except Fault Unit) := by
        rwa [Reply.verdict, shown] at verdict
      split at stopped
      · cases stopped
      · rw [← Except.error.inj stopped]
        exact escaped?_stop replied

variable {σ : Type} [Hosted σ] {seen : List Request → σ → Prop} {options : Options} {before : List Request}
  {is : List Instruction} {calls : List Call} {outcome : Except Fault Unit}

/-- How a script ends has a text, where all that its calls raise has one. -/
theorem Course.kept (course : Course seen options before is calls outcome)
    (told : ∀ c ∈ calls, Fails Fault.IsTold c.reply) : escaped? outcome = none := by
  induction course with
  | done => rfl
  | refused refused => exact escaped?_of_wordings "" (by simp [wordings_of_request refused])
  | unannounced _ _ unsaid => exact escaped?_of_wordings "" (by simp [wordings_of_announce unsaid])
  | ended _ _ _ verdict => exact escaped?_verdict (told _ (by simp)) verdict
  | next _ _ _ _ _ ih => exact ih fun d member => told d (List.mem_cons_of_mem _ member)

/-- A script leaves no failure exactly when each instruction is a call that is carried out and succeeds. -/
theorem Course.errors_eq_nil_iff (course : Course seen options before is calls outcome)
    (counts : ∀ c ∈ calls, Fails Fault.Counts c.reply) (path : String) :
    ((calls.filterMap (Call.recorded? options)).flatMap Reply.failures ++ wordings path outcome = []) ↔
      is.map Instruction.request = calls.map (fun c => .ok c.request) ∧
      ∀ c ∈ calls, c.verdict options = .ok () ∧ ∃ y, c.reply = .ok y ∧ y.succeeded = true := by
  have head (c : Call) (cs : List Call) : (c :: cs).filterMap (Call.recorded? options) =
      (c.recorded? options).toList ++ cs.filterMap (Call.recorded? options) := by
    rw [List.filterMap_cons]
    cases c.recorded? options <;> rfl
  -- A call that ends the script has left a failure, or the fault that it ends with leaves one.
  induction course with
  | done => simp [wordings]
  | refused refused => simp [wordings_of_request refused]
  | unannounced _ _ unsaid => simp [wordings_of_announce unsaid]
  | @ended _ i is c fault _ asked _ _ verdict =>
    have one := call_errors_eq_nil_iff options (counts c (by simp)) path
    rw [verdict] at one
    simp [head, one, verdict]
  | @next _ i is c calls outcome _ asked _ _ verdict later ih =>
    have one := call_errors_eq_nil_iff options (counts c (by simp)) path
    rw [verdict] at one
    have rest : _ ↔ _ := ih fun d member => counts d (List.mem_cons_of_mem c member)
    simp only [wordings, List.append_nil, true_and] at one
    rw [head, List.flatMap_append, List.append_assoc, List.append_eq_nil_iff, one, rest]
    simp only [List.map_cons, asked, List.cons.injEq, true_and, List.forall_mem_cons, verdict]
    constructor
    · rintro ⟨first, same, others⟩
      exact ⟨same, first, others⟩
    · rintro ⟨same, first, others⟩
      exact ⟨first, same, others⟩

/-! ## Scripts that do not load -/

/-- A path with the suffix of a document: a script there is made of records. -/
def IsDocument (path : String) : Prop :=
  Script.documentSuffixes.contains (Text.lower (Path.suffix path)) = true

theorem counts_ofText {path : String} (document : IsDocument path) (runtime : Runtime) (source : String) :
    Fails Fault.Counts (Script.ofText runtime path source) := by
  rw [IsDocument] at document
  rw [Script.ofText, if_pos document]
  unfold Script.ofDocument
  split
  · next fault _ => cases fault.isMalformed <;> exact .error trivial
  · split
    · exact .error trivial
    · exact .ok _

theorem counts_load {path : String} (document : IsDocument path) (runtime : Runtime) :
    Raises Fault.Counts (Script.load runtime path) := by
  have checked : Fails Fault.Counts (Host.checkPath path) := by
    unfold Host.checkPath
    split
    · exact .error trivial
    · exact .ite (.error trivial) (.ok ())
  have read : Raises Fault.Counts (Host.readText path) := by
    refine .bind ?_ fun bytes => ?_
    · intro h fault raised
      simp only [Host.readBytes, Host.consult, Action.result_of] at raised
      split at raised
      · next other refused =>
        cases raised
        exact checked fault refused
      · cases raised
      · cases raised
        trivial
    · cases Text.decode bytes with
      | ok s => exact .pure _
      | error fault => exact .throw trivial
  refine .caught read (fun source => .ofExcept (counts_ofText document runtime source)) fun fault counts => .throw ?_
  cases fault with
  | system fault => trivial
  | decoding fault => trivial
  | _ => exact counts

variable {runtime : Runtime}

theorem ofText_eq {path source : String} {script : Script} (document : IsDocument path)
    (found : Script.ofText runtime path source = .ok script) : ∃ is, script = .instructions path is := by
  rw [IsDocument] at document
  rw [Script.ofText, if_pos document] at found
  unfold Script.ofDocument at found
  split at found
  · simp at found
  · split at found
    · simp at found
    · next is _ => exact ⟨is, (Except.ok.inj found).symm⟩

/-- What is loaded from a path with the suffix of a document are instructions. -/
theorem load_eq {path : String} (document : IsDocument path)
    {h : Host} {script : Script} (loaded : ((Script.load runtime path).result h).1 = .ok script) :
    ∃ is, script = .instructions path is := by
  rw [Script.load, Action.result_bind_of_ok (Action.result_attempt (Host.readText path) h)] at loaded
  cases read : ((Host.readText path).result h).1 with
  | error fault =>
    rw [read] at loaded
    cases loaded
  | ok source =>
    rw [read] at loaded
    simp only [Action.result_ofExcept] at loaded
    exact ofText_eq document loaded

/-- A fault that counts ends a run, or is recorded as a failure. -/
theorem settle_of_counts {σ : Type} [Hosted σ] {fault : Fault} (counts : fault.Counts) (t : Run σ) :
    (∃ message, (settle (.error fault)).result t =
      (.ok (), { t with ledger := t.ledger.recordFailures [message] })) ∨
    (settle (.error fault)).result t = (.error fault, t) := by
  cases fault with
  | script message => exact .inl ⟨message, rfl⟩
  | enforcement ref => exact absurd counts id
  | blockEnforcement => exact absurd counts id
  | _ => exact .inr rfl

/-- A run of a script that is there and does not load makes no call: only the fault is settled. -/
theorem run_unread {σ ε : Type} [Hosted σ] (s : Session (Traced σ ε)) (path : String) (extra : List String)
    (t : Run (Traced σ ε)) (present : ((Host.exists? (Path.normal path)).result (Hosted.host t)).1 = .ok true)
    {fault : Fault} (unread : ((Script.load s.runtime (Path.normal path)).result (Hosted.host t)).1 = .error fault) :
    ∃ start : Run (Traced σ ε), start.ledger = .empty ∧ start.world.trace = t.world.trace ∧
      (s.run path extra).result t = (do
        settle (.error fault)
        close).result start := by
  obtain ⟨start, fresh, same, begins, begun⟩ := run_present path extra t present
  have loading := onHost_result (Looks.load s.runtime (Path.normal path)) unread start begins.files begins.cwd
  have body : (s.body (Path.normal path)).attempt.result start = (.ok (.error fault), start) := by
    rw [Action.result_attempt, Session.body, Action.result_bind_of_error loading]
  exact ⟨start, fresh, same, (begun s).trans (Action.result_bind_of_ok body)⟩

/-- A run of a script that does not load raises, or ends with one failure. -/
theorem run_unloaded {σ ε : Type} [Hosted σ] (s : Session (Traced σ ε)) (path : String) (extra : List String)
    (t : Run (Traced σ ε))
    (document : IsDocument (Path.normal path))
    (unloaded : ∀ is, ¬ Loads s.runtime (Hosted.host t) path is) : ∃ outcome after,
      (s.run path extra).result t = (outcome, after) ∧
      ∀ n, outcome = .ok n → n = 1 ∧ after.ledger.errors.length = 1 := by
  have present := onHost_result (Looks.exists? (Path.normal path)) rfl t rfl rfl
  cases found : ((Host.exists? (Path.normal path)).result (Hosted.host t)).1 with
  | error fault =>
    rw [found] at present
    exact ⟨.error fault, t, Action.result_bind_of_error present, by simp⟩
  | ok there =>
    rw [found] at present
    cases there with
    | false =>
      exact ⟨.error (.scriptNotFound (Path.normal path)), t, Action.result_bind_of_ok present, by simp⟩
    | true =>
      cases loaded : ((Script.load s.runtime (Path.normal path)).result (Hosted.host t)).1 with
      | ok script =>
        obtain ⟨is, rfl⟩ := load_eq document loaded
        exact absurd ⟨found, loaded⟩ (unloaded is)
      | error fault =>
        obtain ⟨start, fresh, -, begun⟩ := s.run_unread path extra t found loaded
        rw [begun]
        rcases settle_of_counts (counts_load document s.runtime _ fault loaded) start with ⟨message, settled⟩ | stopped
        · obtain ⟨after, closed, kept, -⟩ := close_result { start with ledger := start.ledger.recordFailures [message] }
          refine ⟨_, after, (Action.result_bind_of_ok settled).trans closed, fun n same => ?_⟩
          have single : (start.ledger.recordFailures [message]).errors.length = 1 := by
            simp [fresh, Ledger.recordFailures, Ledger.empty]
          rw [kept, single]
          exact ⟨(Except.ok.inj same).symm.trans single, rfl⟩
        · exact ⟨_, _, Action.result_bind_of_error stopped, by simp⟩

end Session

namespace CommandLine

/-- All instructions of a script were calls that went on, and each led to what it asked for. -/
structure Whole (options : Options) (sets : Value.SetOrder) (node : String) (is : List Instruction)
    (deeds : List Deed) : Prop where
  asked : is.map Instruction.request = deeds.map fun d => .ok d.call.request
  dispatched : ∀ d ∈ deeds, d.call.verdict options = .ok ()
  clean : ∀ d ∈ deeds, d.Clean sets node

/-- What comes before a run: the threshold is set and the strategy chosen. -/
def prepare (runtime : Runtime) (r : RunRequest) : Action Host Strategy := do
  showFrom (thresholdOf r.options.debug r.options.verbose)
  strategyOf runtime r

/-- The session of a request that is carried out in this process. -/
def sessionOf (runtime : Runtime) (r : RunRequest) (node : String) (noop : Bool) : Session Host :=
  ⟨Local.backends runtime.sets node noop, r.options, runtime⟩

/-- The end of a run with some outcome. -/
def ending : Except Fault Nat → Action Host Exit
  | .ok failures => return .ofStatus (min failures maxStatus)
  | .error (.scriptNotFound path) => refuse (Fault.scriptNotFound path).message
  | .error fault => throw fault

/-- A run that raised does not end with status 0. -/
theorem ending_error (fault : Fault) (h exit : Host) : (ending (.error fault)).result h ≠ (.ok (.ofStatus 0), exit) := by
  intro same
  cases fault with
  | scriptNotFound path =>
    have refused : (refuse (Fault.scriptNotFound path).message).result h = (.ok (.ofStatus 1), _) := rfl
    cases refused.symm.trans same
  | _ => cases same

section

variable (runtime : Runtime) {words : List String} {r : RunRequest}
    (asked : Request.read words = .ok (.run r)) {h start : Host} {strategy : Strategy}
    (chosen : (prepare runtime r).result h = (.ok strategy, start)) {outcome : Except Fault Nat} {after : Run Host}
    (run : ((⟨strategy.backends runtime.sets, r.options, runtime⟩ : Session Host).run r.script r.extra).result
      ⟨.empty, start⟩ = (outcome, after))
include asked chosen run

/-- What a run comes to is the answer to its command line. -/
theorem answer_result : (answer runtime words).result h = (ending outcome).result after.world := by
  obtain ⟨shown, reveal⟩ : ∃ shown,
      (showFrom (thresholdOf r.options.debug r.options.verbose)).result h = (.ok (), shown) := ⟨_, rfl⟩
  rw [prepare, Action.result_bind_of_ok reveal] at chosen
  have attempted : (strategyOf runtime r).attempt.result shown = (.ok (.ok strategy), start) := by
    rw [Action.result_attempt, chosen]
  let session : Session Host := ⟨strategy.backends runtime.sets, r.options, runtime⟩
  have alone : (session.runAlone r.script r.extra).attempt.result start = (.ok outcome, after.world) := by
    rw [Action.result_attempt, Session.runAlone, Action.result_of, run]
  rw [answer, asked]
  change (CommandLine.run runtime r).result h = _
  rw [CommandLine.run, Action.result_bind_of_ok reveal, Action.result_bind_of_ok attempted]
  exact Action.result_bind_of_ok alone

/-- The status is 0 exactly when the run ends with no failures, and else tells their number. -/
theorem answer_status {whole : Prop} (free : outcome = .ok 0 ↔ whole) :
    ((∃ exit, (answer runtime words).result h = (.ok (.ofStatus 0), exit)) ↔ whole) ∧
    ∀ n, outcome = .ok n → ∃ status, (answer runtime words).result h = (.ok (.ofStatus status), after.world) ∧
      (¬ whole → 1 ≤ status ∧ status ≤ 255) ∧ (n ≤ 255 → status = n) := by
  rw [answer_result runtime asked chosen run, ← free]
  cases outcome with
  | error fault =>
    refine ⟨?_, fun n same => by cases same⟩
    simp only [reduceCtorEq, iff_false, not_exists]
    exact fun exit => ending_error fault after.world exit
  | ok failures =>
    have answered : (ending (.ok failures)).result after.world =
        (.ok (.ofStatus (min failures maxStatus)), after.world) := rfl
    refine ⟨?_, fun n same => ?_⟩
    · simp only [answered, Prod.mk.injEq, Except.ok.injEq, Exit.ofStatus, Exit.mk.injEq, and_true, maxStatus]
      constructor
      · rintro ⟨exit, same, -⟩
        omega
      · rintro rfl
        exact ⟨_, rfl, rfl⟩
    · obtain rfl := Except.ok.inj same
      refine ⟨min failures maxStatus, answered, fun some => ?_, fun short => Nat.min_eq_left short⟩
      have least : failures ≠ 0 := fun none => some (by rw [none])
      rw [maxStatus]
      omega

end

/-- A run of a script that loads has no failures exactly when it is whole. -/
theorem errors_eq_nil_iff {options : Options} {sets : Value.SetOrder} {node path : String}
    {before : List Converge.Request}
    {is : List Instruction} {deeds : List Deed} {outcome : Except Fault Unit} {ledger : Ledger}
    (course : Session.Course (anyState (σ := Host)) options before is (deeds.map Deed.call) outcome)
    (sound : ∀ d ∈ deeds, d.Sound sets node)
    (left : ledger = (Call.noteAll options .empty (deeds.map Deed.call)).recordFailures
      (Session.wordings path outcome)) : ledger.errors = [] ↔ Whole options sets node is deeds := by
  have counts : ∀ c ∈ deeds.map Deed.call, Fails Fault.Counts c.reply := by
    simp only [List.forall_mem_map]
    exact fun d member => (sound d member).counts
  have free := course.errors_eq_nil_iff counts path
  rw [List.map_map, List.forall_mem_map] at free
  rw [left, Session.noteAll_eq]
  refine free.trans ⟨fun ⟨asked, all⟩ => ?_, fun whole => ⟨whole.asked, fun d member => ?_⟩⟩
  · exact ⟨asked, fun d member => (all d member).1, fun d member => (sound d member).succeeds.mp (all d member).2⟩
  · exact ⟨whole.dispatched d member, (sound d member).succeeds.mpr (whole.clean d member)⟩

/-- A run whose calls are recorded returns the number of failures on its ledger, and this is 0 exactly when
the script loads and the run is whole. -/
theorem recorded_ends (s : Session Host) (node : String) (noop : Bool) (path : String) (extra : List String)
    (start : Host) (document : Session.IsDocument (Path.normal path)) {outcome : Except Fault Nat}
    {after : Run (Traced Host Deed)}
    (run : ((s.against (Local.recorded s.runtime.sets node noop)).run path extra).result ⟨.empty, start, []⟩ =
      (outcome, after)) :
    (outcome = .ok 0 ↔ ∃ is, Loads s.runtime start path is ∧
      Whole s.options s.runtime.sets node is after.world.trace) ∧
    ∀ n, outcome = .ok n → n = after.ledger.errors.length := by
  have records := Local.recorded_records (σ := Host) s.runtime.sets node noop
  let t : Session (Traced Host Deed) := s.against (Local.recorded s.runtime.sets node noop)
  by_cases loads : ∃ is, Loads s.runtime start path is
  · obtain ⟨is, loads⟩ := loads
    obtain ⟨deeds, ended, final, course, sound, ran, trace, left, -⟩ :=
      t.run_takes records.stays path extra (t.evaluate_course records _ is) [] ⟨.empty, start, []⟩ trivial
        loads.present loads.script
    have kept := course.kept (List.forall_mem_map.mpr fun d member fault raised =>
      Session.isTold_of_counts ((sound d member).counts fault raised))
    obtain ⟨rfl, rfl⟩ := Prod.mk.inj (run.symm.trans ran)
    rw [List.nil_append] at trace
    rw [trace, Session.endOf, kept, Except.ok.injEq, List.length_eq_zero_iff, errors_eq_nil_iff course sound left]
    refine ⟨⟨fun whole => ⟨is, loads, whole⟩, ?_⟩, fun n same => (Except.ok.inj same).symm⟩
    rintro ⟨js, others, whole⟩
    obtain rfl := loads.unique others
    exact whole
  · obtain ⟨ended, final, ran, failures⟩ :=
      t.run_unloaded path extra ⟨.empty, start, []⟩ document (not_exists.mp loads)
    obtain ⟨rfl, rfl⟩ := Prod.mk.inj (run.symm.trans ran)
    refine ⟨⟨fun none => ?_, fun found => absurd (found.imp fun is => And.left) loads⟩, fun n same => ?_⟩
    · exact absurd (failures 0 none).1 (by decide)
    · obtain ⟨one, length⟩ := failures n same
      exact one.trans length.symm

/-- A run with the backends in this process, its calls on the record: the program ends with status 0
exactly when the script loads and the run is whole. Where the run returns the number of its failures and is
not whole, the status is between 1 and the largest one, and it is this number as far as there is such a status. -/
theorem run_status (runtime : Runtime) {words : List String} {r : RunRequest}
    (asked : Request.read words = .ok (.run r)) {h start : Host} {node : String} {noop : Bool}
    (chosen : (prepare runtime r).result h = (.ok (.inProcess node noop), start))
    (document : Session.IsDocument (Path.normal r.script)) :
    ∃ (outcome : Except Fault Nat) (after : Run Host) (deeds : List Deed),
      ((sessionOf runtime r node noop).run r.script r.extra).result ⟨.empty, start⟩ = (outcome, after) ∧
      (((sessionOf runtime r node noop).against (Local.recorded runtime.sets node noop)).run r.script r.extra).result
        ⟨.empty, start, []⟩ = (outcome, ⟨after.ledger, after.world, deeds⟩) ∧
      ((∃ exit, (answer runtime words).result h = (.ok (.ofStatus 0), exit)) ↔
        ∃ is, Loads runtime start r.script is ∧ Whole r.options runtime.sets node is deeds) ∧
      ∀ n, outcome = .ok n → n = after.ledger.errors.length ∧ ∃ status,
        (answer runtime words).result h = (.ok (.ofStatus status), after.world) ∧
        ((¬ ∃ is, Loads runtime start r.script is ∧ Whole r.options runtime.sets node is deeds) → 1 ≤ status ∧
          status ≤ 255) ∧
        (n ≤ 255 → status = n) := by
  let s := sessionOf runtime r node noop
  obtain ⟨outcome, ⟨ledger, world, deeds⟩, run⟩ : ∃ outcome after,
      ((s.against (Local.recorded runtime.sets node noop)).run r.script r.extra).result ⟨.empty, start, []⟩ =
        (outcome, after) :=
    ⟨_, _, rfl⟩
  have plain := s.run_follows Traced.projects (Local.recorded_follow runtime.sets node noop) r.script r.extra
    ⟨.empty, start, []⟩
  rw [run] at plain
  obtain ⟨free, counted⟩ := recorded_ends s node noop r.script r.extra start document run
  obtain ⟨status, told⟩ := answer_status runtime asked chosen plain free
  exact ⟨outcome, ⟨ledger, world⟩, deeds, plain, run, status, fun n same => ⟨counted n same, told n same⟩⟩

/-- The request for a script of one record. -/
def oneRequest : RunRequest := ⟨"/s.yaml", [], .default, none, none, none⟩

/-- The host with such a script, once the threshold is set. -/
def oneStart : Host :=
  { Session.oneNotice with console := { Session.oneNotice.console with threshold := some .warning } }

/-- The answer is status 0. -/
def isClear : Except Fault Exit → Bool
  | .ok exit => exit == .ofStatus 0
  | .error _ => false

theorem exists_of_isClear {result : Except Fault Exit × Host} (clear : isClear result.1 = true) :
    ∃ exit, result = (.ok (.ofStatus 0), exit) := by
  obtain ⟨answer, exit⟩ := result
  cases answer with
  | error fault => cases clear
  | ok status => exact ⟨exit, by rw [eq_of_beq clear]⟩

theorem run_status_oneNotice : Request.read ["run", "/s.yaml"] = .ok (.run oneRequest) ∧
    (prepare Session.plainly oneRequest).result Session.oneNotice = (.ok (.inProcess defaultNode false), oneStart) ∧
    Session.IsDocument (Path.normal oneRequest.script) ∧
    ∃ is deeds, Loads Session.plainly oneStart "/s.yaml" is ∧ Whole .default .asPut defaultNode is deeds := by
  have asked : Request.read ["run", "/s.yaml"] = .ok (.run oneRequest) := rfl
  have chosen : (prepare Session.plainly oneRequest).result Session.oneNotice =
    (.ok (.inProcess defaultNode false), oneStart) := rfl
  have document : Session.IsDocument (Path.normal oneRequest.script) := by
    rw [Session.IsDocument]
    decide +kernel
  have clear : isClear ((answer Session.plainly ["run", "/s.yaml"]).result Session.oneNotice).1 = true := by
    decide +kernel
  obtain ⟨_, _, deeds, _, _, zero, _⟩ := run_status Session.plainly asked chosen document
  obtain ⟨is, loads, whole⟩ := zero.mp (exists_of_isClear clear)
  exact ⟨asked, chosen, document, is, deeds, loads, whole⟩

end CommandLine

end Converge
