import Converge.Backend.Local
import Converge.Proofs.Calls
import Converge.Proofs.Events
import Converge.Proofs.Judgements

/-!
# Enforcing in this process

A resource succeeds in this process exactly when it was applied once and without a failure
(`enforce_result`), and a block exactly when it makes a catalog that can be finalized and each of whose
resources was applied once and without a failure (`applyBlock_result`). A fault is raised only for what is not
usual, before anything is applied, and it counts: it is not the one with which a session stops a script at a
failed call.
-/

namespace Converge

/-! ## Faults that count -/

/-- A fault counts as one failure of a script: it has a text and is not that of a call that has left its own. -/
def Fault.Counts : Fault → Prop
  | .enforcement _ | .blockEnforcement | .untold .. => False
  | _ => True

theorem Fault.Answers.counts {usual : Prop} {fault : Fault} (answers : fault.Answers usual) : fault.Counts := by
  cases fault with
  | enforcement ref => exact answers
  | blockEnforcement => exact answers
  | untold kind cause text => exact answers
  | _ => trivial

theorem counts_shown (v : Value) : Fails Fault.Counts v.shown := by
  rw [Value.shown]
  split
  · exact .ok _
  · exact .error trivial

namespace Catalog

variable {sets : Value.SetOrder}

/-! ## Compiled catalogs -/

theorem keyed_scaffold (node : String) : (scaffold node).Keyed := by
  have own : ∀ e ∈ (Table.ofList (scaffoldingRefs.map fun ref => (ref.display, (⟨ref, ∅⟩ : Resource)))).entries,
      e.1 = e.2.display := by decide +kernel
  exact own

/-- The resources of a catalog are some first ones and then those of another catalog. -/
structure Tail (base : List Resource) (c own : Catalog) : Prop where
  keyed : c.Keyed
  alone : own.Keyed
  declared : c.declared = base ++ own.declared

variable {base : List Resource} {c own after : Catalog} {type : String}

theorem Tail.extend {r : Resource} (tail : Tail base c own) (added : c.extend r = .ok after) :
    ∃ last, own.extend r = .ok last ∧ Tail base after last := by
  obtain ⟨fresh, -⟩ := extend_ok_iff.mp added
  have new : r.display ∉ own.resources.keys := by
    rw [tail.keyed.keys, tail.declared, List.map_append] at fresh
    rw [tail.alone.keys]
    exact fun inside => fresh (List.mem_append_right _ inside)
  obtain ⟨last, added'⟩ : ∃ last, own.extend r = .ok last := ⟨_, extend_ok_iff.mpr ⟨new, rfl⟩⟩
  refine ⟨last, added', tail.keyed.extend added, tail.alone.extend added', ?_⟩
  rw [extend_declared added, extend_declared added', tail.declared, List.append_assoc]

theorem Tail.addEntry {e : Value × Value} (tail : Tail base c own) (added : Catalog.addEntry type c e = .ok after) :
    ∃ last, Catalog.addEntry type own e = .ok last ∧ Tail base after last := by
  obtain ⟨name, shown, added⟩ := bind_eq_ok.mp added
  simp only [Catalog.addEntry, shown, bind, Except.bind]
  split at added
  · cases added
  · exact tail.extend added

theorem Tail.addEntries {es : List (Value × Value)} (tail : Tail base c own)
    (added : es.foldlM (Catalog.addEntry type) c = .ok after) :
    ∃ last, es.foldlM (Catalog.addEntry type) own = .ok last ∧ Tail base after last := by
  induction es generalizing c own with
  | nil =>
    cases added
    exact ⟨own, rfl, tail⟩
  | cons e es ih =>
    rw [List.foldlM_cons, bind_eq_ok] at added
    obtain ⟨next, first, later⟩ := added
    obtain ⟨between, first', tail'⟩ := tail.addEntry first
    rw [List.foldlM_cons, first']
    exact ih tail' later

theorem Tail.addType {entries : Value} (tail : Tail base c own) (added : c.addType type entries = .ok after) :
    ∃ last, own.addType type entries = .ok last ∧ Tail base after last := by
  obtain ⟨known, found, added⟩ := bind_eq_ok.mp added
  simp only [Catalog.addType, found, bind, Except.bind]
  split at added
  · cases added
    exact ⟨own, rfl, tail⟩
  · exact tail.addEntries added
  · cases added

theorem Tail.addTypes {entries : List (Value × Value)} (tail : Tail base c own)
    (added : (c.addTypes entries).2 = .ok after) :
    ∃ last, (own.addTypes entries).2 = .ok last ∧ Tail base after last := by
  induction entries generalizing c own with
  | nil =>
    cases added
    exact ⟨own, rfl, tail⟩
  | cons e entries ih =>
    rw [Catalog.addTypes] at added ⊢
    split at added
    · cases added
    · split at added
      · exact ih tail added
      · split at added
        · cases added
        · next next first =>
          obtain ⟨between, first', tail'⟩ := tail.addType first
          simp only [first']
          exact ih tail' added

/-- A block of code that compiles to a catalog compiles without the resources of every catalog too, to those of
its resources that come after them. -/
theorem own_of_compile {node : String} {code : Value} (compiled : (compile sets node true code).2 = .ok c) :
    ∃ own, (compile sets node false code).2 = .ok own ∧ Tail (scaffold node).declared c own := by
  have start : Tail (scaffold node).declared (scaffold node) (empty node) :=
    ⟨keyed_scaffold node, fun e member => (by cases member), (List.append_nil _).symm⟩
  rw [compile] at compiled ⊢
  split at compiled
  · cases compiled
  · unfold ofValue at compiled ⊢
    dsimp only at compiled ⊢
    split at compiled
    · cases compiled
      exact ⟨empty node, rfl, start⟩
    · exact start.addTypes compiled
    · cases compiled

/-- A block of code that compiles makes a catalog of resources under their display forms. -/
theorem keyed_compile {node : String} {code : Value} (compiled : (compile sets node true code).2 = .ok c) :
    c.Keyed := by
  obtain ⟨own, -, tail⟩ := own_of_compile compiled
  exact tail.keyed

end Catalog

namespace Local

open Transaction Text

variable {σ : Type} [Hosted σ]

/-! ## Watching -/

/-- The backends in this process, where each application of a resource is recorded. -/
def watched (sets : Value.SetOrder) (node : String) (noop : Bool) : Backends (Traced σ Application) where
  enforce := enforce ((Store.mk node noop).save (watching Store.applier))
  applyBlock := applyBlock (watching Store.applier) sets node noop

theorem watched_enforce (sets : Value.SetOrder) (node : String) (noop : Bool) (r : Resource) :
    Follows Traced.world ((watched sets node noop : Backends (Traced σ Application)).enforce r)
      ((backends sets node noop).enforce r) := by
  have saved : Follows Traced.world ((Store.mk node noop).save (watching Store.applier) r r.ref.key)
      ((Store.mk node noop).save (Store.applier : Applier σ) r r.ref.key) :=
    .ite (.bind (.throw _) fun _ => .bind (.ofExcept _) fun c => evaluate_watching _ _ _ _)
      (.bind (.ofExcept _) fun c => evaluate_watching _ _ _ _)
  refine .bind (.attempt saved) fun outcome => ?_
  split
  · exact .pure _
  · exact .pure _
  · exact .throw _

/-- Recording the applications of a block of code changes nothing of it. -/
theorem applyBlock_watching (apply : Applier σ) (sets : Value.SetOrder) (node : String) (noop : Bool) (code : Value) :
    Follows Traced.world (applyBlock (watching apply) sets node noop code) (applyBlock apply sets node noop code) := by
  have catalog : Follows Traced.world (catalogOf sets node code : Action (Traced σ Application) Catalog)
      (catalogOf sets node code) :=
    .bind (.forM _ fun _ _ => .log Traced.projects _ _) fun _ => .bind (.ofExcept _) fun _ =>
      .bind (.ofExcept _) fun _ => .pure _
  refine .bind (.attempt catalog) fun outcome => ?_
  split
  · exact .pure _
  · exact .throw _
  · exact .bind (evaluate_watching _ _ _ _) fun _ => .bind (.log Traced.projects _ _) fun _ => .pure _

theorem watched_applyBlock (sets : Value.SetOrder) (node : String) (noop : Bool) (code : Value) :
    Follows Traced.world ((watched sets node noop : Backends (Traced σ Application)).applyBlock code)
      ((backends sets node noop).applyBlock code) := applyBlock_watching Store.applier sets node noop code

/-! ## What success means -/

/-- Each of some resources was applied, exactly once and without a failure. -/
structure Clean (rs : List Resource) (applications : List Application) : Prop where
  once : (applications.map Application.resource).Perm rs
  whole : ∀ a ∈ applications, ∃ events, a.outcome = .ok events ∧ ∀ e ∈ events, e.outcome ≠ .failure

omit [Hosted σ] in
theorem Clean.of_perm {rs ss : List Resource} {applications : List Application} (perm : rs.Perm ss)
    (clean : Clean rs applications) : Clean ss applications :=
  ⟨clean.once.trans perm, clean.whole⟩

omit [Hosted σ] in
theorem not_failed_of_whole {a : Application} {events : List Event} (ended : a.outcome = .ok events)
    (whole : ∀ e ∈ events, e.outcome ≠ .failure) : a.status.failed = false := by
  simpa [Application.status, Application.events, ended, Status.failed] using whole

omit [Hosted σ] in
/-- A transaction has no failure exactly when it skipped nothing and applied everything cleanly. -/
theorem clean_iff {c : Catalog} {noop : Bool} {order : List Resource} {report : Report} {trace : List Application}
    (evaluated : Evaluated c noop order report trace) :
    (∀ status ∈ report.statuses.values, status.failed = false) ↔ Clean order trace := by
  constructor
  · intro free
    refine ⟨?_, fun a member => ?_⟩
    · have all : (order.filter fun r => !(report.statuses.get? r.display).any Status.skipped) = order := by
        rw [List.filter_eq_self]
        intro r _
        cases found : report.statuses.get? r.display with
        | none => rfl
        | some status =>
          cases skipped : status.skipped with
          | false => simp [skipped]
          | true =>
            -- What is skipped leads back to something that failed, and nothing did.
            obtain ⟨d, failing, -, reported, failed⟩ := (evaluated.skipped _ status found).mp skipped
            rw [free failing (Table.mem_values.mpr ⟨d, reported⟩)] at failed
            cases failed
      rw [evaluated.applied, all]
    · exact Application.ok_of_not_failed (free _ (Table.mem_values.mpr ⟨_, (evaluated.own a member).2⟩))
  · intro clean status member
    obtain ⟨ref, found⟩ := Table.mem_values.mp member
    have known : ref ∈ report.statuses.keys :=
      List.mem_map_of_mem (Table.get?_eq_some.mp found)
    rw [evaluated.statuses, List.mem_map] at known
    obtain ⟨r, inside, rfl⟩ := known
    obtain ⟨a, applied, rfl⟩ := List.mem_map.mp (clean.once.mem_iff.mpr inside)
    obtain ⟨events, ended, whole⟩ := clean.whole a applied
    rw [(evaluated.own a applied).2, Option.some.injEq] at found
    rw [← found]
    exact not_failed_of_whole ended whole

/-! ## Resources -/

omit [Hosted σ] in
theorem catalogOf_settled {node : String} {r : Resource} {c : Catalog} (found : Store.catalogOf node r = .ok c) :
    c.Settled [r] := by
  obtain ⟨start, added, found⟩ := bind_eq_ok.mp found
  obtain ⟨_, finalized, found⟩ := bind_eq_ok.mp found
  cases found
  have keyed : start.Keyed := Catalog.Keyed.extend (fun e member => by cases member) added
  obtain ⟨order, settled⟩ := keyed.settled finalized
  have declared : start.declared = [r] := Catalog.extend_declared added
  have perm := settled.perm
  rw [Catalog.finalize_declared, declared] at perm
  rwa [List.perm_singleton.mp perm] at settled

omit [Hosted σ] in
/-- The judgement of a report with one status: success means that the one resource was applied cleanly. -/
theorem judge_succeeded {c : Catalog} {noop : Bool} {r : Resource} {report : Report} {trace : List Application}
    (evaluated : Evaluated c noop [r] report trace) : (judge r report).succeeded = true ↔ Clean [r] trace := by
  obtain ⟨⟨ref, status⟩, listed, same⟩ := List.map_eq_singleton_iff.mp evaluated.statuses
  obtain rfl : ref = r.display := same
  have found : report.statuses.get? r.display = some status := by
    rw [Table.get?_eq_some, listed]
    simp
  have single : (∀ s ∈ report.statuses.values, s.failed = false) ↔ status.failed = false := by
    simp [Table.values, listed]
  rw [← clean_iff evaluated, single, judge, found]
  cases failed : status.failed <;> simp [failed, Enforcement.refused, Enforcement.success]

/-- Saving a resource applies it through the catalog that holds it alone, or fails before anything is done. -/
theorem save_result (node : String) (noop : Bool) (r : Resource) (t : Traced σ Application) :
    ∃ outcome world applications,
      ((Store.mk node noop).save (watching Store.applier) r r.ref.key).result t =
        (outcome, ⟨world, t.trace ++ applications⟩) ∧
      ((∃ fault, outcome = .error fault ∧ fault.Answers r.IsUsual ∧ world = t.world ∧ applications = []) ∨
        ∃ c report, outcome = .ok report ∧ Evaluated c noop [r] report applications) := by
  rw [Store.save, if_neg (fun differs => differs rfl)]
  cases found : Store.catalogOf node r with
  | error fault =>
    have stopped : (Action.ofExcept (.error fault : Except Fault Catalog)).result t = (.error fault, t) := rfl
    refine ⟨.error fault, t.world, [], ?_, .inl ⟨fault, rfl, answers_catalogOf node r fault found, rfl, rfl⟩⟩
    rw [List.append_nil]
    exact Action.result_bind_of_error stopped
  | ok c =>
    obtain ⟨report, after, trace, run, recorded, evaluated, -⟩ := evaluate_told (catalogOf_settled found)
      (fun r _ => Store.applier_told r (isDry noop r)) node t
    refine ⟨.ok report, after.world, trace, ?_, .inr ⟨c, report, rfl, evaluated⟩⟩
    rw [← recorded]
    exact run

/-- A resource enforced: it succeeds exactly when it was applied once and without a failure. A fault that is raised
tells that the resource is not usual, and nothing has become of it. -/
theorem enforce_result (sets : Value.SetOrder) (node : String) (noop : Bool) (r : Resource) (t : Traced σ Application) :
    ∃ answer world applications,
      ((watched sets node noop).enforce r).result t = (answer, ⟨world, t.trace ++ applications⟩) ∧
      ((∃ e, answer = .ok e ∧ e.succeeded = true) ↔ Clean [r] applications) ∧ Fails Fault.Counts answer ∧
      ∀ fault, answer = .error fault → ¬ r.IsUsual ∧ world = t.world ∧ applications = [] := by
  obtain ⟨outcome, world, applications, run, came⟩ := save_result node noop r t
  have tried : ((Store.mk node noop).save (watching Store.applier) r r.ref.key).attempt.result t =
      (.ok outcome, ⟨world, t.trace ++ applications⟩) := by rw [Action.result_attempt, run]
  rcases came with ⟨fault, rfl, answers, same, rfl⟩ | ⟨c, report, rfl, evaluated⟩
  · have unapplied : ¬ Clean [r] [] := fun clean => by simpa using clean.once.length_eq
    -- A refusal is an answer, and every other fault goes on.
    cases fault with
    | catalog refusal =>
      exact ⟨.ok (.refused refusal.message r), world, [], Action.result_bind_of_ok tried,
        by simp [unapplied, Enforcement.refused], .ok _, fun _ other => by cases other⟩
    | _ =>
      exact ⟨_, world, [], Action.result_bind_of_ok tried, by simp [unapplied], .error answers.counts,
        fun _ _ => ⟨answers.unusual fun _ => Fault.noConfusion, same, rfl⟩⟩
  · exact ⟨.ok (judge r report), world, applications, Action.result_bind_of_ok tried,
      by simpa using judge_succeeded evaluated, .ok _, fun _ other => by cases other⟩

/-! ## Blocks -/

theorem catalogOf_eq (sets : Value.SetOrder) (node : String) (code : Value) :
    (catalogOf sets node code : Action σ Catalog) = do
    (Catalog.compile sets node true code).1.forM fun type =>
      Action.log .debug ("Skipping virtual resources of type " ++ type)
    let c ← .ofExcept (Catalog.compile sets node true code).2
    let () ← .ofExcept c.finalize.1
    return c.finalize.2 := rfl

theorem catalogOf_logs (sets : Value.SetOrder) (node : String) (code : Value) :
    Leaves OnlyLogged (catalogOf sets node code : Action σ Catalog) := by
  rw [catalogOf_eq]
  exact .bind (.forM _ fun _ _ => .log _ _) fun _ => .bind (.ofExcept _) fun _ => .bind (.ofExcept _) fun _ => .pure _

/-- The catalog of a block: one that compiles and can be finalized, or a fault. -/
theorem blockCatalog_result (sets : Value.SetOrder) (node : String) (code : Value) (t : Traced σ Application) :
    ∃ outcome world, (catalogOf sets node code).result t = (outcome, ⟨world, t.trace⟩) ∧
    ((∃ fault, outcome = .error fault ∧ fault.Answers (Catalog.IsUsualBlock sets code) ∧
        ∀ c, (Catalog.compile sets node true code).2 = .ok c → c.finalize.1 ≠ .ok ()) ∨
      ∃ c, outcome = .ok c.finalize.2 ∧ (Catalog.compile sets node true code).2 = .ok c ∧ c.finalize.1 = .ok ()) := by
  obtain ⟨_, ⟨world, _⟩, logged, rfl⟩ := Silent.forM (σ := σ) (ε := Application) (Catalog.compile sets node true code).1
    (fun type => Silent.log .debug ("Skipping virtual resources of type " ++ type)) t
  rw [catalogOf_eq, Action.result_bind_of_ok logged]
  cases compiled : (Catalog.compile sets node true code).2 with
  | error fault =>
    refine ⟨.error fault, world, rfl, .inl ⟨fault, rfl, Catalog.answers_compile sets node code fault compiled, ?_⟩⟩
    intro c other
    cases other
  | ok c =>
    change ∃ outcome world', (Action.ofExcept c.finalize.1 >>= fun _ => pure c.finalize.2).result
      (⟨world, t.trace⟩ : Traced σ Application) = (outcome, ⟨world', t.trace⟩) ∧ _
    cases finalized : c.finalize.1 with
    | error fault =>
      have answers := c.answers_finalize fault finalized
      refine ⟨.error fault, world, rfl, .inl ⟨fault, rfl, answers.mono fun usual => usual.usual node c compiled, ?_⟩⟩
      intro c other
      cases other
      simp [finalized]
    | ok done => exact ⟨.ok c.finalize.2, world, rfl, .inr ⟨c, rfl, rfl, finalized⟩⟩

/-- What a report says of a block: success means that nothing failed. -/
theorem judgeBlock_succeeded (c : Catalog) (report : Report) :
    (judgeBlock c report).succeeded = true ↔ ∀ status ∈ report.statuses.values, status.failed = false := by
  simp [judgeBlock, Report.failedStatuses, List.filter_eq_nil_iff]

/-- A block of code whose catalog is made ends with what the report of its transaction says, or with what an
application that broke it raised. -/
theorem applyBlock_evaluated (apply : Applier σ) {sets : Value.SetOrder} {node : String} (noop : Bool) {code : Value}
    {c : Catalog}
    {order : List Resource} {s : σ} {t : Traced σ Application} (settled : c.Settled order)
    (made : (catalogOf sets node code).result t = (.ok c, ⟨s, t.trace⟩)) :
    ∃ answer world applications, (applyBlock (watching apply) sets node noop code).result t =
        (answer, ⟨world, t.trace ++ applications⟩) ∧
      (∀ a ∈ applications, a.resource ∈ order ∧ a.dry = isDry noop a.resource ∧ a.IsOf apply) ∧
      ((∃ report, answer = .ok (judgeBlock c report) ∧ Evaluated c noop order report applications) ∨
        ∃ a ∈ applications, ∃ raised, a.Breaks raised ∧ answer = .error raised) := by
  have tried : (catalogOf sets node code).attempt.result t = (.ok (.ok c), ⟨s, t.trace⟩) := by
    rw [Action.result_attempt, made]
  obtain ⟨outcome, ⟨after, _⟩, trace, evaluation, rfl, own, ended⟩ :=
    evaluate_settled apply noop settled node (⟨s, t.trace⟩ : Traced σ Application)
  rcases ended with ⟨report, rfl, evaluated⟩ | ⟨a, member, raised, breaks, rfl⟩
  · obtain ⟨_, ⟨final, _⟩, logged, rfl⟩ := Silent.log .debug ("Code block for " ++ node ++ " managed " ++
      toString (judgeBlock c report).resources.length ++ " resources (" ++ overallWord report ++ ")")
      (⟨after, t.trace ++ trace⟩ : Traced σ Application)
    refine ⟨_, final, trace, ?_, own, .inl ⟨report, rfl, evaluated⟩⟩
    refine (Action.result_bind_of_ok tried).trans ((Action.result_bind_of_ok evaluation).trans ?_)
    exact Action.result_bind_of_ok logged
  · exact ⟨_, after, trace, (Action.result_bind_of_ok tried).trans (Action.result_bind_of_error evaluation), own,
      .inr ⟨a, member, raised, breaks, rfl⟩⟩

/-- A block of code enforced: it succeeds exactly when it makes a catalog that can be finalized and each
of its resources was applied once and without a failure. A fault that is raised tells that the block is not usual,
and nothing has become of it but records of the log. -/
theorem applyBlock_result (sets : Value.SetOrder) (node : String) (noop : Bool) (code : Value)
    (t : Traced σ Application) :
    ∃ answer world applications,
      ((watched sets node noop).applyBlock code).result t = (answer, ⟨world, t.trace ++ applications⟩) ∧
      ((∃ b, answer = .ok b ∧ b.succeeded = true) ↔ ∃ c, (Catalog.compile sets node true code).2 = .ok c ∧
        c.finalize.1 = .ok () ∧ Clean c.declared applications) ∧ Fails Fault.Counts answer ∧
      ∀ fault, answer = .error fault →
        ¬ Catalog.IsUsualBlock sets code ∧ OnlyLogged t.world world ∧ applications = [] := by
  obtain ⟨outcome, world, run, came⟩ := blockCatalog_result sets node code t
  have logged : OnlyLogged t.world world := by
    have leaves := catalogOf_logs sets node code t
    rw [run] at leaves
    exact leaves.world
  have tried : (catalogOf sets node code).attempt.result t = (.ok outcome, ⟨world, t.trace⟩) := by
    rw [Action.result_attempt, run]
  rcases came with ⟨fault, rfl, answers, unmade⟩ | ⟨c, rfl, compiled, finalized⟩
  · have unapplied : ¬ ∃ c, (Catalog.compile sets node true code).2 = .ok c ∧ c.finalize.1 = .ok () ∧
      Clean c.declared [] :=
      fun ⟨c, compiled, finalized, _⟩ => unmade c compiled finalized
    cases fault with
    | catalog refusal =>
      refine ⟨.ok (.refused [refusal.message]), world, [], ?_, by simp [unapplied, BlockResult.refused], .ok _,
        fun _ other => by cases other⟩
      rw [List.append_nil]
      exact Action.result_bind_of_ok tried
    | _ =>
      refine ⟨_, world, [], ?_, by simp [unapplied], .error answers.counts,
        fun _ _ => ⟨answers.unusual fun _ => Fault.noConfusion, logged, rfl⟩⟩
      rw [List.append_nil]
      exact Action.result_bind_of_ok tried
  · have keyed := Catalog.keyed_compile compiled
    obtain ⟨order, settled⟩ := keyed.settled finalized
    obtain ⟨answer, final, trace, block, own, ended⟩ :=
      applyBlock_evaluated Store.applier noop settled run
    rcases ended with ⟨report, rfl, evaluated⟩ | ⟨a, member, raised, breaks, -⟩
    · refine ⟨_, final, trace, block, ?_, .ok _, fun _ other => by cases other⟩
      have perm := Catalog.finalize_declared c ▸ settled.perm
      have succeeds : (judgeBlock c.finalize.2 report).succeeded = true ↔ Clean c.declared trace :=
        (judgeBlock_succeeded _ _).trans ((clean_iff evaluated).trans ⟨.of_perm perm, .of_perm perm.symm⟩)
      constructor
      · rintro ⟨b, same, succeeded⟩
        rw [← Except.ok.inj same] at succeeded
        exact ⟨c, compiled, finalized, succeeds.mp succeeded⟩
      · rintro ⟨d, compiled', finalized', clean⟩
        rw [compiled] at compiled'
        cases compiled'
        exact ⟨_, rfl, succeeds.mpr clean⟩
    · exact absurd breaks ((own a member).2.2.not_breaks (Store.applier_told _ _) raised)

end Local

end Converge
