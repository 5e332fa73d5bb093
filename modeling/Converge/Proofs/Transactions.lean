import Converge.Proofs.Finalize
import Converge.Proofs.Wording

/-!
# Transactions of finalized catalogs

Applications are recorded by an applier that follows the given one (`watching`). One step of a
transaction visits one resource: it skips it when one that it depends on failed or was skipped, and
applies it once otherwise (`step_visits`). A transaction is then a course of such visits
(`foldlM_visits`), in which a resource is skipped exactly when a chain of dependencies leads to one
that failed (`Completed.skipped_iff`), and its report is that of the course (`evaluate_correct`). A
course ends early at one thing only: at a fault that has no text to be reported (`Application.Breaks`).
-/

namespace Converge.Transaction

variable {σ α : Type} [Hosted σ]

/-- One bringing about of a resource: whether it was a dry run, and what came of it. -/
structure Application where
  resource : Resource
  dry : Bool
  outcome : Except Fault (List Event)

namespace Application

def events (a : Application) : List Event :=
  match a.outcome with
  | .ok events => events
  | .error fault => [⟨"ensure", .failure, fault.message⟩]

/-- What an application makes known of its resource. -/
def status (a : Application) : Status := ⟨a.resource.display, a.events, false⟩

/-- The application raised a fault without a text, and asking for the text raises another one. -/
def Breaks (a : Application) (raised : Fault) : Prop :=
  ∃ fault, a.outcome = .error fault ∧ fault.text = .error raised

/-- The application is one that an applier makes at some state. -/
def IsOf (apply : Applier σ) (a : Application) : Prop := ∃ s, ((apply a.resource a.dry).result s).1 = a.outcome

omit [Hosted σ] in
/-- What can be told does not break a transaction. -/
theorem IsOf.not_breaks {apply : Applier σ} {a : Application} (own : a.IsOf apply)
    (told : Raises Fault.IsTold (apply a.resource a.dry)) (raised : Fault) : ¬ a.Breaks raised := by
  rintro ⟨fault, ended, untold⟩
  obtain ⟨s, same⟩ := own
  have text := told s fault (same.trans ended)
  rw [Fault.IsTold, untold] at text
  cases text

theorem failed_of_error {a : Application} {fault : Fault} (raised : a.outcome = .error fault) :
    a.status.failed = true := by
  simp [status, events, raised, Status.failed]

/-- Without a failure the applier returned events, and no failure is among them. -/
theorem ok_of_not_failed {a : Application} (whole : a.status.failed = false) :
    ∃ events, a.outcome = .ok events ∧ ∀ e ∈ events, e.outcome ≠ .failure := by
  cases ended : a.outcome with
  | error fault =>
    rw [failed_of_error ended] at whole
    cases whole
  | ok events =>
    refine ⟨events, rfl, ?_⟩
    simpa [status, Application.events, ended, Status.failed] using whole

end Application

/-- The applier whose applications are recorded. -/
def watching (apply : Applier σ) : Applier (Traced σ Application) :=
  fun r dry => noted (fun outcome => ⟨r, dry, outcome⟩) (apply r dry)

/-! ## One visit -/

/-- A resource visited: skipped, or applied. -/
structure Visit where
  resource : Resource
  application : Option Application

namespace Visit

def display (v : Visit) : String := v.resource.display

/-- What a visit makes known of its resource. -/
def status (v : Visit) : Status :=
  match v.application with
  | none => ⟨v.display, [], true⟩
  | some a => ⟨v.display, a.events, false⟩

/-- What depends on the resource of a visit is skipped. -/
def blocks (v : Visit) : Bool := v.status.skipped || v.status.failed

theorem ref_status (v : Visit) : v.status.ref = v.display := by
  rw [status]
  cases v.application <;> rfl

theorem skipped_iff {v : Visit} : v.status.skipped = true ↔ v.application = none := by
  rw [status]
  cases v.application <;> simp

theorem blocks_iff {v : Visit} : v.blocks = true ↔ v.application = none ∨ v.status.failed = true := by
  rw [blocks, Bool.or_eq_true, skipped_iff]

end Visit

def Progress.visit (p : Progress) (v : Visit) : Progress :=
  ⟨p.report.add v.status, if v.blocks then v.display :: p.blocked else p.blocked⟩

/-- The visit is that of a step: it skips its resource if something that it depends on is blocked,
and applies it otherwise. -/
structure Visit.Follows (c : Catalog) (noop : Bool) (blocked : String → Prop) (v : Visit) : Prop where
  skipped : v.application = none ↔ ∃ d ∈ c.dependenciesOf v.resource, blocked d
  applied : ∀ a, v.application = some a → a.resource = v.resource ∧ a.dry = isDry noop v.resource

/-- The events of a resource are those of its application, which is recorded, unless this breaks the
transaction. -/
theorem eventsOf_watching (apply : Applier σ) (noop : Bool) (r : Resource) (s : Traced σ Application) :
    ∃ a outcome after, a.resource = r ∧ a.dry = isDry noop r ∧ a.IsOf apply ∧
      (eventsOf (watching apply) noop r).result s = (outcome, after) ∧ after.trace = s.trace ++ [a] ∧
      (outcome = .ok a.events ∨ ∃ raised, a.Breaks raised ∧ outcome = .error raised) := by
  obtain ⟨outcome, after, run⟩ : ∃ outcome after, (apply r (isDry noop r)).result s.world = (outcome, after) :=
    ⟨_, _, rfl⟩
  have watched : (watching apply r (isDry noop r)).attempt.result s =
      (.ok outcome, ⟨after, s.trace ++ [⟨r, isDry noop r, outcome⟩]⟩) := by
    simp [watching, noted, run]
  have own : Application.IsOf apply ⟨r, isDry noop r, outcome⟩ := ⟨s.world, by rw [run]⟩
  refine ⟨⟨r, isDry noop r, outcome⟩, ?_⟩
  rw [eventsOf, Action.result_bind_of_ok watched]
  cases outcome with
  | ok events => exact ⟨_, _, rfl, rfl, own, rfl, rfl, .inl rfl⟩
  | error fault =>
    obtain ⟨_, logged, log, same⟩ := Silent.log .debug (r.display ++ ": apply raised")
      (⟨after, s.trace ++ [⟨r, isDry noop r, .error fault⟩]⟩ : Traced σ Application)
    dsimp only
    rw [Action.result_bind_of_ok log]
    cases told : fault.text with
    | ok text =>
      obtain rfl := Fault.text_ok told
      exact ⟨_, logged, rfl, rfl, own, rfl, same, .inl rfl⟩
    | error raised => exact ⟨_, logged, rfl, rfl, own, rfl, same, .inr ⟨raised, ⟨fault, rfl, told⟩, rfl⟩⟩

/-- A step visits one resource, and what it applies is recorded; it does not end if this breaks it. -/
theorem step_visits (apply : Applier σ) (noop : Bool) (c : Catalog) (r : Resource) (p : Progress)
    (s : Traced σ Application) :
    ∃ v outcome after, v.resource = r ∧ v.Follows c noop (· ∈ p.blocked) ∧
      (∀ a, v.application = some a → a.IsOf apply) ∧
      (step (watching apply) noop c p r).result s = (outcome, after) ∧ after.trace = s.trace ++ v.application.toList ∧
      (outcome = .ok (p.visit v) ∨
        ∃ a raised, v.application = some a ∧ a.Breaks raised ∧ outcome = .error raised) := by
  rw [step]
  by_cases blocked : (c.dependenciesOf r).any p.blocked.contains = true
  · obtain ⟨_, logged, log, same⟩ := Silent.log .warning (r.display ++ ": Skipping because of failed dependencies") s
    refine ⟨⟨r, none⟩, _, logged, rfl, ⟨by simpa using blocked, by simp⟩, by simp, ?_, by simpa using same,
      .inl rfl⟩
    rw [if_pos blocked]
    exact Action.result_bind_of_ok log
  · obtain ⟨a, outcome, applied, own, dry, isOf, run, recorded, ended⟩ := eventsOf_watching apply noop r s
    have follows : Visit.Follows c noop (· ∈ p.blocked) ⟨r, some a⟩ := by
      refine ⟨by simpa using blocked, fun other found => ?_⟩
      cases found
      exact ⟨own, dry⟩
    have isOf' : ∀ b, some a = some b → b.IsOf apply := by
      rintro b ⟨⟩
      exact isOf
    rw [if_neg blocked]
    rcases ended with rfl | ⟨raised, breaks, rfl⟩
    · obtain ⟨_, logged, log, same⟩ := Silent.forM a.events
        (fun e => Silent.log .info (r.display ++ "/" ++ e.property ++ ": " ++ e.message)) applied
      refine ⟨⟨r, some a⟩, _, logged, rfl, follows, isOf', ?_, by simpa [recorded] using same, .inl rfl⟩
      refine (Action.result_bind_of_ok run).trans ((Action.result_bind_of_ok log).trans ?_)
      simp [Progress.visit, Visit.blocks, Visit.status, Visit.display]
    · exact ⟨⟨r, some a⟩, _, applied, rfl, follows, isOf', Action.result_bind_of_error run, recorded,
        .inr ⟨a, raised, rfl, breaks, rfl⟩⟩

/-! ## A course of visits -/

def progressOf (node : String) (visits : List Visit) : Progress :=
  visits.foldl Progress.visit ⟨.start node, []⟩

/-- Among some visits is one of a display form that keeps others from being applied. -/
def Blocked (visits : List Visit) (ref : String) : Prop :=
  ∃ w ∈ visits, w.blocks = true ∧ w.display = ref

theorem progressOf_append (node : String) (visits : List Visit) (v : Visit) :
    progressOf node (visits ++ [v]) = (progressOf node visits).visit v := by
  simp [progressOf, List.foldl_append]

theorem mem_blocked (node : String) (visits : List Visit) (ref : String) :
    ref ∈ (progressOf node visits).blocked ↔ Blocked visits ref := by
  induction visits using List.reverseRecOn with
  | nil => simp [progressOf, Blocked]
  | append_singleton visits v ih =>
    rw [progressOf_append, Progress.visit]
    have last : Blocked (visits ++ [v]) ref ↔ Blocked visits ref ∨ (v.blocks = true ∧ v.display = ref) := by
      simp [Blocked, or_and_right, exists_or]
    by_cases blocks : v.blocks = true
    · simp [last, blocks, ih, eq_comm, or_comm]
    · simp [last, blocks, ih]

/-- The statuses of visits to different resources are theirs, in order. -/
theorem progressOf_entries (node : String) (visits : List Visit)
    (nodup : (visits.map Visit.display).Nodup) :
    (progressOf node visits).report.statuses.entries = visits.map fun v => (v.display, v.status) := by
  induction visits using List.reverseRecOn with
  | nil => rfl
  | append_singleton visits v ih =>
    rw [List.map_append, List.nodup_append] at nodup
    obtain ⟨earlier, -, apart⟩ := nodup
    have fresh : v.display ∉ (progressOf node visits).report.statuses.keys := by
      rw [Table.keys, ih earlier, List.map_map]
      exact fun member => apart _ member _ (by simp) rfl
    rw [progressOf_append, Progress.visit, Report.add, v.ref_status, Table.entries_insert_of_not_mem fresh, ih earlier,
      List.map_append]
    rfl

/-- Every visit of a list follows those before it, and those done before the list. -/
def Course (c : Catalog) (noop : Bool) : (done visits : List Visit) → Prop
  | _, [] => True
  | done, v :: rest => v.Follows c noop (Blocked done) ∧ Course c noop (done ++ [v]) rest

/-- A transaction visits its resources in a course, and what it applies is recorded; only an application
that breaks it ends it before. -/
theorem foldlM_visits (apply : Applier σ) (noop : Bool) (c : Catalog) (node : String) (order : List Resource)
    (done : List Visit) (s : Traced σ Application) :
    ∃ visits outcome after,
      (order.foldlM (step (watching apply) noop c) (progressOf node done)).result s = (outcome, after) ∧
      after.trace = s.trace ++ visits.filterMap Visit.application ∧
      (∀ a ∈ visits.filterMap Visit.application, a.resource ∈ order ∧ a.dry = isDry noop a.resource ∧ a.IsOf apply) ∧
      ((visits.map Visit.resource = order ∧ Course c noop done visits ∧
          outcome = .ok (progressOf node (done ++ visits))) ∨
        ∃ a ∈ visits.filterMap Visit.application, ∃ raised, a.Breaks raised ∧ outcome = .error raised) := by
  induction order generalizing done s with
  | nil => exact ⟨[], _, s, rfl, by simp, by simp, .inl ⟨rfl, trivial, by simp⟩⟩
  | cons r order ih =>
    obtain ⟨v, first, between, own, follows, isOf, run, recorded, ended⟩ :=
      step_visits apply noop c r (progressOf node done) s
    have made : ∀ a, v.application = some a →
        a.resource ∈ r :: order ∧ a.dry = isDry noop a.resource ∧ a.IsOf apply := by
      intro a applied
      obtain ⟨same, dry⟩ := follows.applied a applied
      exact ⟨by simp [same, own], same ▸ dry, isOf a applied⟩
    rcases ended with rfl | ⟨a, raised, applied, breaks, rfl⟩
    · obtain ⟨visits, outcome, after, run', recorded', made', ended⟩ := ih (done ++ [v]) between
      -- The names kept by the run are those of the visits that block.
      have blocked : (· ∈ (progressOf node done).blocked) = Blocked done :=
        funext fun ref => propext (mem_blocked node done ref)
      refine ⟨v :: visits, outcome, after, ?_, ?_, ?_, ?_⟩
      · rw [List.foldlM_cons, Action.result_bind_of_ok run, ← progressOf_append, run']
      · rw [recorded', recorded, List.append_assoc]
        cases found : v.application with
        | none => simp [found]
        | some a => simp [found]
      · intro a member
        rcases List.mem_filterMap.mp member with ⟨w, inside, applied⟩
        rcases List.mem_cons.mp inside with rfl | later
        · exact made a applied
        · obtain ⟨inside, others⟩ := made' a (List.mem_filterMap.mpr ⟨w, later, applied⟩)
          exact ⟨List.mem_cons_of_mem _ inside, others⟩
      · rcases ended with ⟨same, course, rfl⟩ | ⟨a, member, raised, breaks, rfl⟩
        · exact .inl ⟨by simp [own, same], ⟨blocked ▸ follows, course⟩, by simp⟩
        · obtain ⟨w, later, applied⟩ := List.mem_filterMap.mp member
          exact .inr ⟨a, List.mem_filterMap.mpr ⟨w, List.mem_cons_of_mem _ later, applied⟩, raised, breaks, rfl⟩
    · have only : [v].filterMap Visit.application = [a] := by simp [applied]
      refine ⟨[v], _, between, ?_, ?_, ?_, .inr ⟨a, by simp [only], raised, breaks, rfl⟩⟩
      · rw [List.foldlM_cons]
        exact Action.result_bind_of_error run
      · rw [recorded, applied, only]
        rfl
      · rw [only]
        intro b member
        obtain rfl := List.mem_singleton.mp member
        exact made b applied

theorem Course.follows {c : Catalog} {noop : Bool} {done before after : List Visit} {v : Visit}
    (course : Course c noop done (before ++ v :: after)) : v.Follows c noop (Blocked (done ++ before)) := by
  induction before generalizing done with
  | nil => simpa using course.1
  | cons first before ih => simpa using ih course.2

/-- A display form directly depends on another. -/
def Depends (c : Catalog) (first second : String) : Prop := first ∈ Catalog.dependenciesIn c.dependencies second

/-- A course from the beginning, in an order that respects the dependencies. -/
structure Completed (c : Catalog) (noop : Bool) (visits : List Visit) : Prop where
  course : Course c noop [] visits
  nodup : (visits.map Visit.display).Nodup
  respects : Catalog.Respects (Catalog.dependenciesIn c.dependencies) [] (visits.map Visit.display)

namespace Completed

variable {c : Catalog} {noop : Bool} {visits : List Visit}

theorem same (completed : Completed c noop visits) {v w : Visit} (member : v ∈ visits) (other : w ∈ visits)
    (same : v.display = w.display) : v = w :=
  List.inj_on_of_nodup_map completed.nodup member other same

/-- What a resource depends on was visited before it. -/
theorem before (completed : Completed c noop visits) {before after : List Visit} {v : Visit}
    (split : visits = before ++ v :: after) {d : String} (depends : Depends c d v.display) :
    ∃ w ∈ before, w.display = d := by
  have respects := completed.respects
  rw [split, List.map_append, List.map_cons] at respects
  have earlier := (respects.mem_before depends).resolve_left (by simp)
  exact List.mem_map.mp earlier

/-- A resource is skipped when one that it depends on failed or was skipped. -/
theorem skipped_of_blocks (completed : Completed c noop visits) {v w : Visit} (member : v ∈ visits)
    (other : w ∈ visits) (depends : Depends c w.display v.display) (blocks : w.blocks = true) :
    v.application = none := by
  obtain ⟨before, after, split⟩ := List.append_of_mem member
  obtain ⟨u, earlier, same⟩ := completed.before split depends
  have inside : u ∈ visits := by rw [split]; simp [earlier]
  obtain rfl := completed.same inside other same
  have course := completed.course
  rw [split] at course
  exact course.follows.skipped.mpr ⟨u.display, depends, u, by simpa using earlier, blocks, rfl⟩

/-- From a skipped resource a chain of dependencies leads to one that failed. -/
theorem chain_of_skipped (completed : Completed c noop visits) {before after : List Visit} {v : Visit}
    (split : visits = before ++ v :: after) (skipped : v.application = none) :
    ∃ w ∈ visits, w.status.failed = true ∧ Relation.TransGen (Depends c) w.display v.display := by
  -- What keeps a resource from being applied was visited before it, so the visits before grow fewer.
  induction size : before.length using Nat.strong_induction_on generalizing before v after with
  | _ n ih =>
    have course := completed.course
    rw [split] at course
    obtain ⟨d, depends, w, earlier, blocks, rfl⟩ := course.follows.skipped.mp skipped
    rw [List.nil_append] at earlier
    have step : Depends c w.display v.display := depends
    rcases Visit.blocks_iff.mp blocks with none | failed
    · obtain ⟨start, between, rfl⟩ := List.append_of_mem earlier
      have shorter : start.length < n := by simp [← size]
      have division : visits = start ++ w :: (between ++ v :: after) := by simp [split]
      obtain ⟨u, member, failed, path⟩ := ih start.length shorter division none rfl
      exact ⟨u, member, failed, path.tail step⟩
    · exact ⟨w, by simp [split, earlier], failed, .single step⟩

/-- A resource is skipped exactly when a chain of dependencies leads from it to one that failed. -/
theorem skipped_iff (completed : Completed c noop visits) {v : Visit} (member : v ∈ visits) :
    v.application = none ↔
      ∃ w ∈ visits, w.status.failed = true ∧ Relation.TransGen (Depends c) w.display v.display := by
  constructor
  · intro skipped
    obtain ⟨before, after, split⟩ := List.append_of_mem member
    exact completed.chain_of_skipped split skipped
  · rintro ⟨w, other, failed, path⟩
    -- Along the chain everything after the failed resource is skipped.
    have along : ∀ ref, Relation.TransGen (Depends c) w.display ref → ∀ v ∈ visits, v.display = ref →
        v.application = none := by
      intro ref path
      induction path with
      | single step =>
        rintro v member rfl
        exact completed.skipped_of_blocks member other step (Visit.blocks_iff.mpr (.inr failed))
      | @tail middle last _ step ih =>
        rintro v member rfl
        obtain ⟨before, after, split⟩ := List.append_of_mem member
        obtain ⟨u, earlier, rfl⟩ := completed.before split step
        have inside : u ∈ visits := by rw [split]; simp [earlier]
        have none := ih u inside rfl
        exact completed.skipped_of_blocks member inside step (Visit.blocks_iff.mpr (.inl none))
    exact along v.display path v member rfl

end Completed

/-! ## What is reported -/

/-- What a completed transaction has done and what it reports: every resource has a status, in order;
it is skipped exactly when a chain of dependencies leads to one that failed, and then it is not
applied; every other one is applied once, after all that it depends on was applied without failure. -/
structure Evaluated (c : Catalog) (noop : Bool) (order : List Resource) (report : Report)
    (trace : List Application) : Prop where
  statuses : report.statuses.keys = order.map Resource.display
  skipped : ∀ ref status, report.statuses.get? ref = some status →
    (status.skipped = true ↔ ∃ d failing, Relation.TransGen (Depends c) d ref ∧
      report.statuses.get? d = some failing ∧ failing.failed = true)
  untouched : ∀ ref status, report.statuses.get? ref = some status → status.skipped = true →
    status.events = [] ∧ ∀ a ∈ trace, a.resource.display ≠ ref
  applied : trace.map Application.resource =
    order.filter fun r => !(report.statuses.get? r.display).any Status.skipped
  own : ∀ a ∈ trace, a.dry = isDry noop a.resource ∧
    report.statuses.get? a.resource.display = some a.status
  raised : ∀ a ∈ trace, ∀ fault, a.outcome = .error fault → a.status.failed = true
  after : ∀ before a later, trace = before ++ a :: later → ∀ d ∈ c.dependenciesOf a.resource,
    ∃ b ∈ before, b.resource.display = d ∧
      ∃ events, b.outcome = .ok events ∧ ∀ e ∈ events, e.outcome ≠ .failure
  failed : report.overall = some .failed ↔ ∃ status ∈ report.statuses.values, status.failed = true
  changed : report.overall = some .changed ↔ (∀ status ∈ report.statuses.values, status.failed = false) ∧
    ∃ status ∈ report.statuses.values, status.changed = true
  unchanged : report.overall = some .unchanged ↔
    ∀ status ∈ report.statuses.values, status.failed = false ∧ status.changed = false

theorem overallOf_iff (statuses : List Status) :
    (Report.overallOf statuses = .failed ↔ ∃ status ∈ statuses, status.failed = true) ∧
    (Report.overallOf statuses = .changed ↔ (∀ status ∈ statuses, status.failed = false) ∧
      ∃ status ∈ statuses, status.changed = true) ∧
    (Report.overallOf statuses = .unchanged ↔
      ∀ status ∈ statuses, status.failed = false ∧ status.changed = false) := by
  have none : ∀ p : Status → Bool, (∀ status ∈ statuses, p status = false) ↔ statuses.any p = false := by
    intro p
    simp
  have both : (∀ status ∈ statuses, status.failed = false ∧ status.changed = false) ↔
      statuses.any Status.failed = false ∧ statuses.any Status.changed = false := by
    rw [← none, ← none]
    exact forall₂_and
  rw [Report.overallOf, both, none, ← List.any_eq_true, ← List.any_eq_true]
  cases statuses.any Status.failed
  · cases statuses.any Status.changed
    · decide
    · decide
  · simp

def Reports (report : Report) (visits : List Visit) : Prop :=
  report.statuses.entries = visits.map fun v => (v.display, v.status)

theorem Reports.get?_iff {report : Report} {visits : List Visit} (reports : Reports report visits)
    {ref : String} {status : Status} :
    report.statuses.get? ref = some status ↔ ∃ v ∈ visits, v.display = ref ∧ v.status = status := by
  rw [Table.get?_eq_some, reports, List.mem_map]
  simp

theorem Reports.get? {report : Report} {visits : List Visit} (reports : Reports report visits) {v : Visit}
    (member : v ∈ visits) : report.statuses.get? v.display = some v.status :=
  reports.get?_iff.mpr ⟨v, member, rfl, rfl⟩

namespace Completed

variable {c : Catalog} {noop : Bool} {visits : List Visit}

theorem own (completed : Completed c noop visits) {v : Visit} (member : v ∈ visits) {a : Application}
    (applied : v.application = some a) : a.resource = v.resource ∧ a.dry = isDry noop v.resource := by
  obtain ⟨before, after, split⟩ := List.append_of_mem member
  have course := completed.course
  rw [split] at course
  exact course.follows.applied a applied

theorem status_eq (completed : Completed c noop visits) {v : Visit} (member : v ∈ visits) {a : Application}
    (applied : v.application = some a) : v.status = a.status := by
  simp [Visit.status, applied, Application.status, Visit.display, (completed.own member applied).1]

/-- What is applied are the resources that are not skipped, in order. -/
theorem resources (completed : Completed c noop visits) {l : List Visit} (inside : ∀ v ∈ l, v ∈ visits)
    {skips : Resource → Bool} (agrees : ∀ v ∈ visits, skips v.resource = v.status.skipped) :
    (l.filterMap Visit.application).map Application.resource =
      (l.map Visit.resource).filter fun r => !skips r := by
  induction l with
  | nil => rfl
  | cons v l ih =>
    have first := inside v (by simp)
    have later := ih fun w member => inside w (by simp [member])
    cases applied : v.application with
    | none => simp [applied, agrees v first, Visit.status, later]
    | some a => simp [applied, agrees v first, Visit.status, later, (completed.own first applied).1]

/-- What an applied resource depends on was applied before, and none of it failed. -/
theorem applied_after (completed : Completed c noop visits) {before later : List Application} {a : Application}
    (split : visits.filterMap Visit.application = before ++ a :: later) {d : String}
    (depends : Depends c d a.resource.display) :
    ∃ b ∈ before, b.resource.display = d ∧ b.status.failed = false := by
  obtain ⟨first, second, parts, rfl, tail⟩ := List.filterMap_eq_append_iff.mp split
  obtain ⟨between, v, rest, parts', skipped, applied, -⟩ := List.filterMap_eq_cons_iff.mp tail
  have whole : visits = (first ++ between) ++ v :: rest := by rw [parts, parts', List.append_assoc]
  have member : v ∈ visits := by simp [whole]
  rw [(completed.own member applied).1] at depends
  obtain ⟨w, earlier, rfl⟩ := completed.before whole depends
  have other : w ∈ visits := by
    rw [whole]
    exact List.mem_append_left _ earlier
  have free : ¬ w.blocks = true := by
    intro blocks
    have none := completed.skipped_of_blocks member other depends blocks
    rw [applied] at none
    cases none
  rw [Visit.blocks_iff, not_or, Bool.not_eq_true] at free
  obtain ⟨b, found⟩ := Option.ne_none_iff_exists'.mp free.1
  refine ⟨b, ?_, ?_, completed.status_eq other found ▸ free.2⟩
  · rcases List.mem_append.mp earlier with inside | passed
    · exact List.mem_filterMap.mpr ⟨w, inside, found⟩
    · rw [skipped w passed] at found
      cases found
  · rw [(completed.own other found).1]
    rfl

theorem evaluated (completed : Completed c noop visits) {report : Report} (reports : Reports report visits)
    (overall : report.overall = some (Report.overallOf report.statuses.values)) :
    Evaluated c noop (visits.map Visit.resource) report (visits.filterMap Visit.application) := by
  obtain ⟨failed, changed, unchanged⟩ := overallOf_iff report.statuses.values
  refine ⟨?_, ?_, ?_, ?_, ?_, ?_, ?_, ?_, ?_, ?_⟩
  · rw [Table.keys, reports, List.map_map, List.map_map]
    rfl
  · intro ref made found
    obtain ⟨v, member, rfl, rfl⟩ := reports.get?_iff.mp found
    rw [Visit.skipped_iff, completed.skipped_iff member]
    constructor
    · rintro ⟨w, other, fails, path⟩
      exact ⟨w.display, w.status, path, reports.get? other, fails⟩
    · rintro ⟨d, failing, path, reported, fails⟩
      obtain ⟨w, other, rfl, rfl⟩ := reports.get?_iff.mp reported
      exact ⟨w, other, fails, path⟩
  · intro ref made found skipped
    obtain ⟨v, member, rfl, rfl⟩ := reports.get?_iff.mp found
    have none := Visit.skipped_iff.mp skipped
    refine ⟨by simp [Visit.status, none], fun a recorded same => ?_⟩
    obtain ⟨w, other, applied⟩ := List.mem_filterMap.mp recorded
    rw [(completed.own other applied).1] at same
    rw [completed.same member other same.symm, applied] at none
    cases none
  · refine completed.resources (fun _ member => member) fun v member => ?_
    have found := reports.get? member
    rw [Visit.display] at found
    simp [found]
  · intro a recorded
    obtain ⟨v, member, applied⟩ := List.mem_filterMap.mp recorded
    obtain ⟨own, dry⟩ := completed.own member applied
    rw [own, ← completed.status_eq member applied]
    exact ⟨dry, reports.get? member⟩
  · exact fun a _ fault raised => Application.failed_of_error raised
  · intro before a later split d depends
    obtain ⟨b, earlier, same, whole⟩ := completed.applied_after split depends
    exact ⟨b, earlier, same, Application.ok_of_not_failed whole⟩
  · simpa [overall] using failed
  · simpa [overall] using changed
  · simpa [overall] using unchanged

end Completed

/-! ## The transaction -/

/-- Recording the applications of a transaction changes nothing of it. -/
theorem evaluate_watching (apply : Applier σ) (noop : Bool) (c : Catalog) (report : Report) :
    Follows Traced.world (evaluate (watching apply) noop c report) (evaluate apply noop c report) := by
  have events (r : Resource) : Follows Traced.world (eventsOf (watching apply) noop r) (eventsOf apply noop r) := by
    refine .bind (.attempt (.noted _ _)) fun outcome => ?_
    cases outcome with
    | ok events => exact .pure events
    | error fault =>
      exact .bind (.log Traced.projects _ _) fun _ => .bind (.ofExcept _) fun _ => .pure _
  have one (p : Progress) (r : Resource) :
      Follows Traced.world (step (watching apply) noop c p r) (step apply noop c p r) := by
    rw [step, step]
    split
    · exact .bind (.log Traced.projects _ _) fun _ => .pure _
    · exact .bind (events r) fun events =>
        .bind (.forM events fun _ _ => .log Traced.projects _ _) fun _ => .pure _
  exact .bind (.ofExcept _) fun order => .bind (.foldlM order _ one) fun _ => .pure _

/-- A transaction that could make its visits ends with their report. -/
theorem evaluate_of_visits {apply : Applier σ} {noop : Bool} {c : Catalog} {order : List Resource} {node : String}
    {visits : List Visit} {s after : σ} (ordered : c.ordered = .ok order)
    (run : (order.foldlM (step apply noop c) (progressOf node [])).result s = (.ok (progressOf node visits), after)) :
    (evaluate apply noop c (.start node)).result s = (.ok (progressOf node visits).report.finalize, after) := by
  have listed : (Action.ofExcept c.ordered).result s = (.ok order, s) := by rw [Action.result_ofExcept, ordered]
  rw [evaluate, Action.result_bind_of_ok listed]
  exact Action.result_bind_of_ok run

/-- A transaction of a settled catalog ends with a report of all that it did, or else with what an
application that broke it raised. -/
theorem evaluate_settled (apply : Applier σ) (noop : Bool) {c : Catalog} {order : List Resource}
    (settled : c.Settled order) (node : String) (s : Traced σ Application) :
    ∃ outcome after trace, (evaluate (watching apply) noop c (.start node)).result s = (outcome, after) ∧
      after.trace = s.trace ++ trace ∧
      (∀ a ∈ trace, a.resource ∈ order ∧ a.dry = isDry noop a.resource ∧ a.IsOf apply) ∧
      ((∃ report, outcome = .ok report ∧ Evaluated c noop order report trace) ∨
        ∃ a ∈ trace, ∃ raised, a.Breaks raised ∧ outcome = .error raised) := by
  obtain ⟨visits, outcome, after, run, recorded, made, ended⟩ := foldlM_visits apply noop c node order [] s
  have listed : (Action.ofExcept c.ordered).result s = (.ok order, s) := by
    rw [Action.result_ofExcept, settled.ordered]
  rcases ended with ⟨own, course, rfl⟩ | ⟨a, member, raised, breaks, rfl⟩
  · have displays : visits.map Visit.display = order.map Resource.display := by
      rw [← own, List.map_map]
      rfl
    have completed : Completed c noop visits := by
      refine ⟨course, ?_, ?_⟩
      · rw [displays]
        exact settled.nodup
      · rw [displays]
        exact settled.respects
    have reports : Reports (progressOf node visits).report.finalize visits :=
      progressOf_entries node visits completed.nodup
    exact ⟨_, after, _, evaluate_of_visits settled.ordered run, recorded, made,
      .inl ⟨_, rfl, own ▸ completed.evaluated reports rfl⟩⟩
  · refine ⟨_, after, _, ?_, recorded, made, .inr ⟨a, member, raised, breaks, rfl⟩⟩
    rw [evaluate, Action.result_bind_of_ok listed]
    exact Action.result_bind_of_error run

/-- A transaction whose applier raises only what can be told ends with a report. -/
theorem evaluate_told {apply : Applier σ} {noop : Bool} {c : Catalog} {order : List Resource}
    (settled : c.Settled order) (told : ∀ r ∈ order, Raises Fault.IsTold (apply r (isDry noop r))) (node : String)
    (s : Traced σ Application) :
    ∃ report after trace, (evaluate (watching apply) noop c (.start node)).result s = (.ok report, after) ∧
      after.trace = s.trace ++ trace ∧ Evaluated c noop order report trace ∧ ∀ a ∈ trace, a.IsOf apply := by
  obtain ⟨outcome, after, trace, run, recorded, made, ⟨report, rfl, evaluated⟩ | ⟨a, member, raised, breaks, -⟩⟩ :=
    evaluate_settled apply noop settled node s
  · exact ⟨report, after, trace, run, recorded, evaluated, fun a member => (made a member).2.2⟩
  · obtain ⟨inside, dry, own⟩ := made a member
    exact absurd breaks (own.not_breaks (dry ▸ told a.resource inside) raised)

end Converge.Transaction
