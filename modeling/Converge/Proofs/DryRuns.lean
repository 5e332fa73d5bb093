import Converge.Proofs.Events
import Converge.Proofs.Sessions

/-!
# Dry runs

A file, a notice or one of the resources of every catalog only looks at the host in a dry run
(`looks_applyResource`), so a transaction that is a dry run of all its resources leaves nothing but
records in the log (`evaluate_dry`). A resource takes part in the dry run of its transaction unless it asks
for another, and one whose wish is nothing at all counts as asking for another (`evaluate_nullNoop`).
-/

namespace Converge

/-! ## Looking -/

namespace Looks

variable {α : Type}

theorem pure (x : α) : Looks (Pure.pure x) := fun _ _ _ _ => rfl

theorem throw (fault : Fault) : Looks (MonadExcept.throw fault : Action Host α) := fun _ _ _ _ => rfl

theorem ite {c : Prop} [Decidable c] {a b : Action Host α} (yes : Looks a) (no : Looks b) :
    Looks (if c then a else b) := by
  split
  · exact yes
  · exact no

theorem ask (path : String) (follow : Bool) (p : Entry → Bool) : Looks (Host.ask path follow p) := by
  intro h k files cwd
  simp only [Host.ask, Action.result_of, files, cwd]
  split <;> rfl

/-- An action that only looks leaves any state as it was. -/
theorem leaves {σ : Type} [Hosted σ] {R : σ → σ → Prop} [Std.Refl R] {a : Action Host α} (looks : Looks a) :
    Leaves R (.onHost a) := by
  intro s
  rw [Action.result_onHost, looks (Hosted.host s) (Hosted.host s) rfl rfl, Hosted.withHost_host]
  exact Std.Refl.refl s

end Looks

/-- A change that is only announced looks at nothing at all. -/
theorem looks_change (property should message : String) (action : Action Host Unit) :
    Looks (change property should message action true) := .pure _

namespace ResourceType

namespace File

theorem looks_remove (path : String) : Looks (remove path true) := by
  have directory : Looks (Host.isDirectory path) := .ask path _ _
  have link : Looks (Host.isLink path) := .ask path _ _
  refine .bind link fun _ => .ite (.bind (.pure _) fun _ => ?_) (.bind (.ask path _ _) fun _ => ?_)
  all_goals
  · refine .ite (.bind directory fun _ => .ite (.bind link fun _ => .bind (.pure _) fun _ => ?_)
      (.bind (.pure _) fun _ => ?_)) (.pure _)
    all_goals exact looks_change _ _ _ _

theorem looks_create (path : String) : Looks (create path true) :=
  .bind (.ask path _ _) fun _ => .ite (.pure _) (looks_change _ _ _ _)

theorem looks_adjust (path : String) (content : Value) : Looks (adjust path content true) := by
  refine .bind (.readText path) fun current => ?_
  split
  · exact .ite (.pure _) (.bind (.ofExcept _) fun _ => looks_change _ _ _ _)
  · exact .throw _

theorem looks_place (path : String) (r : Resource) : Looks (place path r true) := by
  refine .bind (.ask path _ _) fun _ => .ite (.ite (.pure _) (.pure _)) ?_
  refine .bind (.ask path _ _) fun _ => .ite ?_ ?_
  · exact .bind (looks_change _ _ _ _) fun _ => .pure _
  · split
    · exact .pure _
    · exact .bind (looks_adjust path _) fun _ => .pure _

theorem looks_setMode (path : String) (r : Resource) : Looks (setMode path r true) := by
  refine .bind (.ofExcept _) fun mode => ?_
  split
  · exact .pure _
  · refine .bind (.ask path _ _) fun _ => .ite (.bind (.consult path _) fun current => ?_) (.pure _)
    exact .ite (.pure _) (looks_change _ _ _ _)

theorem looks_apply (r : Resource) : Looks (apply r true) := by
  unfold apply
  dsimp only
  split
  · exact looks_remove _
  · exact .bind (looks_create _) fun _ => .bind (looks_setMode _ r) fun _ => .pure _
  · refine .bind (looks_place _ r) fun events => ?_
    split
    · exact .pure _
    · exact .bind (looks_setMode _ r) fun _ => .pure _

end File

theorem looks_applyNotify (r : Resource) : Looks (applyNotify r true) :=
  .bind (.ofExcept _) fun _ => .pure _

/-- In a dry run only the guard of a command can do anything. -/
theorem looks_applyResource {r : Resource} (kind : r.ref.type ≠ exec.name) : Looks (applyResource r true) := by
  rw [applyResource]
  cases known : get r.ref.type with
  | error fault => exact fun _ _ _ _ => rfl
  | ok type =>
    change Looks (type.apply r true)
    cases type with
    | exec => exact absurd (name_of_get known) kind
    | file => exact File.looks_apply r
    | notify => exact looks_applyNotify r
    | _ => exact .pure _

end ResourceType

/-! ## Transactions -/

/-- A resource takes part in the dry run of its transaction: it says nothing, or asks for one. -/
def Resource.StaysDry (r : Resource) : Prop := r.param? "noop" = none ∨ r.param? "noop" = some (.bool true)

theorem Resource.StaysDry.isDry {r : Resource} (stays : r.StaysDry) : Transaction.isDry true r = true := by
  rw [Transaction.isDry]
  rcases stays with absent | asked
  · rw [absent]
  · rw [asked]
    rfl

/-- A valid resource takes part unless it wishes otherwise, or its wish is nothing. -/
theorem Resource.staysDry_of_valid {r : Resource} (valid : ResourceType.validateResource r = .ok ())
    (willing : r.param? "noop" ≠ some (.bool false)) (given : r.param? "noop" ≠ some .null) : r.StaysDry := by
  obtain ⟨type, -, valid⟩ := Catalog.validateResource_ok_iff.mp valid
  obtain ⟨_, common, -⟩ := bind_eq_ok.mp valid
  unfold ResourceType.validateCommon at common
  split at common
  · cases common
  · split at common
    · next absent => exact .inl absent
    · next null => exact absurd null given
    · next b asked =>
      cases b with
      | true => exact .inr asked
      | false => exact absurd asked willing
    · obtain ⟨_, -, refused⟩ := bind_eq_ok.mp common
      cases refused

namespace Transaction

variable {σ : Type} [Hosted σ]

/-- What is no command leaves only records when its transaction is a dry run in which it takes part. -/
theorem leaves_evaluate_dry {c : Catalog} (kinds : ∀ r ∈ c.declared, r.ref.type ≠ ResourceType.exec.name)
    (stays : ∀ r ∈ c.declared, r.StaysDry) (report : Report) :
    Leaves OnlyLogged (evaluate Store.applier true c report : Action σ Report) := by
  refine leaves_evaluate OnlyLogged.log (fun r member => ?_) report
  rw [(stays r member).isDry]
  exact (ResourceType.looks_applyResource (kinds r member)).leaves

/-- A transaction that is a dry run, over files, notices and the resources of every catalog that do not ask
for another and do not wish for nothing: it ends with a report of all of them, leaves the files and the
output as they were, and reports no success, so that it is unchanged or failed. -/
theorem evaluate_dry {c : Catalog} {order : List Resource} (reach : c.Reachable) (ordered : c.ordered = .ok order)
    (kinds : ∀ r ∈ order, r.ref.type ≠ ResourceType.exec.name)
    (willing : ∀ r ∈ order, r.param? "noop" ≠ some (.bool false))
    (given : ∀ r ∈ order, r.param? "noop" ≠ some .null) (node : String) (s : σ) :
    ∃ report after, (evaluate Store.applier true c (.start node)).result s = (.ok report, after) ∧
      report.statuses.keys = order.map Resource.display ∧
      OnlyLogged s after ∧ (Hosted.host after).files = (Hosted.host s).files ∧
      (Hosted.host after).console.out = (Hosted.host s).console.out ∧
      (∀ status ∈ report.statuses.values, ∀ e ∈ status.events, e.outcome ≠ .success) ∧
      (report.overall = some .unchanged ∨ report.overall = some .failed) := by
  have settled := reach.settled ordered
  have stays : ∀ r ∈ order, r.StaysDry := fun r member =>
    r.staysDry_of_valid (settled.valid r member) (willing r member) (given r member)
  obtain ⟨report, after, trace, run, -, evaluated, sound⟩ :=
    evaluate_events true settled node (⟨s, []⟩ : Traced σ Application)
  have plain := evaluate_watching Store.applier true c (.start node) (⟨s, []⟩ : Traced σ Application)
  rw [run] at plain
  have logged : OnlyLogged s after.world := by
    have leaves := leaves_evaluate_dry (σ := σ) (c := c)
      (fun r member => kinds r (settled.perm.mem_iff.mpr member))
      (fun r member => stays r (settled.perm.mem_iff.mpr member)) (.start node) s
    rwa [plain] at leaves
  -- What was skipped has no events, and what was applied was applied in a dry run.
  have unchanging : ∀ status ∈ report.statuses.values, ∀ e ∈ status.events, e.outcome ≠ .success := by
    intro status member e listed
    rcases evaluated.status_cases member with none | ⟨a, applied, rfl⟩
    · rw [none] at listed
      cases listed
    · have inside : a.resource ∈ order := evaluated.mem_order applied
      have dry : a.dry = true := (evaluated.own a applied).1.trans (stays _ inside).isDry
      exact sound a applied dry e listed
  refine ⟨report, after.world, plain, evaluated.statuses, logged, logged.files, logged.out, unchanging, ?_⟩
  by_cases failed : ∃ status ∈ report.statuses.values, status.failed = true
  · exact .inr (evaluated.failed.mpr failed)
  · refine .inl (evaluated.unchanged.mpr fun status member => ⟨?_, ?_⟩)
    · simpa using fun fails => failed ⟨status, member, fails⟩
    · simpa [Status.changed] using unchanging status member

def emptyRoot : Host := { Host.bare with files := ⟨[([], .directory 0o755)], 0o022⟩ }

/-- A file that asks for a dry run, and a notice that says nothing of one. -/
def fileAndNotice : List Resource :=
  [⟨{ type := "file", name := "/f" }, Table.ofList [("noop", .bool true), ("before", .text "Notify[a]")]⟩,
    ⟨{ type := "notify", name := "a" }, ∅⟩]

theorem evaluate_dry_fileAndNotice : ∃ c order report after, c.Reachable ∧ c.ordered = .ok order ∧
    order.map Resource.display = ["File[/f]", "Notify[a]"] ∧
    (∀ r ∈ order, r.ref.type ≠ ResourceType.exec.name ∧ r.param? "noop" ≠ some (.bool false) ∧
      r.param? "noop" ≠ some .null) ∧
    (evaluate Store.applier true c (.start "script")).result emptyRoot = (.ok report, after) ∧
    after.files = emptyRoot.files ∧ after.console.out = "" := by
  obtain ⟨c, order, built, ordered, rfl⟩ : ∃ c order, Catalog.ofResources "script" fileAndNotice = .ok c ∧
      c.finalize.2.ordered = .ok order ∧ order = fileAndNotice := ⟨_, _, rfl, rfl, rfl⟩
  have reach := (Catalog.Reachable.ofResources built).finalize
  have kinds : ∀ r ∈ fileAndNotice, r.ref.type ≠ ResourceType.exec.name := by
    simp [fileAndNotice, ResourceType.name]
  have stays : ∀ r ∈ fileAndNotice, r.StaysDry := by
    simp only [fileAndNotice, List.forall_mem_cons, List.not_mem_nil, false_implies, implies_true, and_true]
    exact ⟨.inr rfl, .inl rfl⟩
  have willing : ∀ r ∈ fileAndNotice, r.param? "noop" ≠ some (.bool false) := fun r member => by
    rcases stays r member with wish | wish <;> simp [wish]
  have given : ∀ r ∈ fileAndNotice, r.param? "noop" ≠ some .null := fun r member => by
    rcases stays r member with wish | wish <;> simp [wish]
  obtain ⟨report, after, run, -, -, files, out, -⟩ := evaluate_dry reach ordered kinds willing given "script" emptyRoot
  exact ⟨_, _, report, after, reach, ordered, by decide +kernel,
    fun r member => ⟨kinds r member, willing r member, given r member⟩, run, files, out⟩

/-- A file that is not asked to be left as it is, and whose wish for a dry run is nothing. -/
def nullNoop : List Resource := [⟨{ type := "file", name := "/f" }, Table.ofList [("noop", .null)]⟩]

/-- A file whose wish is nothing is created in a dry run. -/
theorem evaluate_nullNoop : ∃ c order report after, c.Reachable ∧ c.ordered = .ok order ∧
    (∀ r ∈ order, r.ref.type = ResourceType.file.name ∧ r.param? "noop" = some .null) ∧
    (evaluate Store.applier true c (.start "script")).result emptyRoot = (.ok report, after) ∧
    report.overall = some .changed ∧ emptyRoot.files.get? ["f"] = none ∧
    (after.files.get? ["f"]).map Entry.mode = some 0o644 := by
  obtain ⟨c, order, built, ordered, same, overall, made⟩ : ∃ c order,
      Catalog.ofResources "script" nullNoop = .ok c ∧ c.finalize.2.ordered = .ok order ∧ order = nullNoop ∧
      ((evaluate Store.applier true c.finalize.2 (.start "script")).result emptyRoot).1.toOption.bind
        Report.overall = some .changed ∧
      (((evaluate Store.applier true c.finalize.2 (.start "script")).result emptyRoot).2.files.get? ["f"]).map
        Entry.mode = some 0o644 := ⟨_, _, rfl, rfl, rfl, by decide +kernel, by decide +kernel⟩
  subst same
  have reach := (Catalog.Reachable.ofResources built).finalize
  obtain ⟨report, after, -, run, -⟩ := evaluate_events true (reach.settled ordered) "script"
    (⟨emptyRoot, []⟩ : Traced Host Application)
  have plain := evaluate_watching Store.applier true c.finalize.2 (.start "script") (⟨emptyRoot, []⟩ : Traced Host Application)
  rw [run] at plain
  rw [plain] at overall made
  refine ⟨_, _, report, after.world, reach, ordered, ?_, plain, overall, rfl, made⟩
  simp only [nullNoop, List.forall_mem_singleton]
  exact ⟨rfl, rfl⟩

end Transaction

end Converge
