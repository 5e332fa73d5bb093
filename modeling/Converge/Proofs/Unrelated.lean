import Converge.Proofs.Events
import Converge.Proofs.Grouping
import Converge.Proofs.Local
import Converge.Proofs.SameResources

/-!
# Resources without relations

A catalog whose resources have no relations can be finalized exactly when all of them are valid, and its order
is that of declaration (`finalize_unrelated`). Each of them is then brought about on its own
(`evaluate_arranged`); the resources of every catalog change nothing when it is their turn (`bring_scaffold`).
-/

namespace Converge

namespace Resource

variable {r : Resource} {relation : String}

/-- A relation of a resource is not given, or is given as nothing or as an empty list. -/
def Lacks (r : Resource) (relation : String) : Prop :=
  r.param? relation = none ∨ r.param? relation = some .null ∨ ∃ share, r.param? relation = some (.list share [])

theorem Lacks.relationItems (lacks : r.Lacks relation) : Catalog.relationItems r relation = [] := by
  rw [Catalog.relationItems]
  obtain absent | null | ⟨share, empty⟩ := lacks
  · rw [absent]
  · rw [null]
  · rw [empty]
    cases share <;> rfl

theorem Lacks.renumber (lacks : r.Lacks relation) (f : Nat → Share) : (r.renumber f).Lacks relation := by
  rw [Lacks, param?_renumber]
  obtain absent | null | ⟨share, empty⟩ := lacks
  · exact .inl (by rw [absent]; rfl)
  · exact .inr (.inl (by rw [null]; rfl))
  · exact .inr (.inr ⟨share.bind f, by rw [empty]; rfl⟩)

/-- A resource has no relations to others. -/
structure IsUnrelated (r : Resource) : Prop where
  require : r.Lacks "require"
  before : r.Lacks "before"

theorem IsUnrelated.renumber (unrelated : r.IsUnrelated) (f : Nat → Share) : (r.renumber f).IsUnrelated :=
  ⟨unrelated.require.renumber f, unrelated.before.renumber f⟩

end Resource

namespace Catalog

open ResourceType

variable {c : Catalog} {r : Resource}

/-! ## Finalizing -/

theorem relate_unrelated (unrelated : r.IsUnrelated) (deps : Table (List String)) :
    c.relate deps r = (validateResource r).map fun _ => deps := by
  rw [relate, targets, targets, unrelated.require.relationItems, unrelated.before.relationItems]
  cases validateResource r <;> rfl

theorem foldlM_relate_unrelated {rs : List Resource} (unrelated : ∀ r ∈ rs, r.IsUnrelated)
    (deps : Table (List String)) : rs.foldlM c.relate deps = (rs.forM validateResource).map fun _ => deps := by
  induction rs with
  | nil => rfl
  | cons r rs ih =>
    obtain ⟨own, others⟩ := List.forall_mem_cons.mp unrelated
    rw [List.foldlM_cons, relate_unrelated own]
    change _ = (validateResource r >>= fun _ => rs.forM validateResource).map _
    cases validateResource r with
    | error fault => rfl
    | ok _ => exact ih others

/-- Any order respects that there are no dependencies. -/
theorem respects_free {deps : String → List String} (free : ∀ ref, deps ref = []) (done order : List String) :
    Respects deps done order := by
  induction order generalizing done with
  | nil => trivial
  | cons ref order ih => exact ⟨by simp [free], ih _⟩

/-- The catalog in the order of declaration. -/
def arranged (c : Catalog) : Catalog := { c with dependencies := c.unrelated, order := some c.resources.keys }

/-- A catalog without relations asks no more than that its resources are valid. -/
theorem finalize_unrelated (unrelated : ∀ r ∈ c.declared, r.IsUnrelated) :
    c.finalize = match c.declared.forM validateResource with
      | .error fault => (.error fault, c)
      | .ok () => (.ok (), c.arranged) := by
  have related : c.relations = (c.declared.forM validateResource).map fun _ => c.unrelated :=
    foldlM_relate_unrelated unrelated c.unrelated
  cases valid : c.declared.forM validateResource with
  | error fault =>
    rw [valid] at related
    simp [finalize, related, Except.map]
  | ok _ =>
    rw [valid] at related
    have sorted : c.sort c.unrelated = .ok c.resources.keys := by
      have taken := schedule_of_respects c.size (by simp [size, Table.size, Table.keys])
        (respects_free c.dependenciesIn_unrelated [] c.resources.keys)
      exact sort_ok_iff_schedule.mpr taken
    exact finalize_eq related sorted

theorem ordered_arranged (c : Catalog) : c.arranged.ordered = .ok c.declared := by
  rw [declared, Table.values_eq]
  rfl

theorem dependenciesOf_arranged (c : Catalog) (r : Resource) : c.arranged.dependenciesOf r = [] :=
  c.dependenciesIn_unrelated r.display

/-! ## The resources of every catalog -/

theorem declared_scaffold (node : String) : (scaffold node).declared = scaffoldingRefs.map fun ref => ⟨ref, ∅⟩ := by
  have apart : (scaffoldingRefs.map Ref.display).Nodup := by decide +kernel
  have entries := Table.entries_insertAll Table.empty
    (scaffoldingRefs.map fun ref => (ref.display, (⟨ref, ∅⟩ : Resource)))
    (by simpa [Table.keys, Table.empty, Function.comp_def] using apart)
  change (Table.insertAll _ _).entries.map Prod.snd = _
  rw [entries]
  simp [Table.empty]

theorem displays_scaffold (node : String) : (scaffold node).declared.map Resource.display = builtins := by
  rw [declared_scaffold, List.map_map]
  rfl

theorem scaffold_unrelated (node : String) : ∀ r ∈ (scaffold node).declared, r.IsUnrelated := by
  rw [declared_scaffold]
  intro r member
  obtain ⟨ref, -, rfl⟩ := List.mem_map.mp member
  exact ⟨.inl rfl, .inl rfl⟩

/-- None of these is a block's own. -/
theorem filter_scaffold (node : String) :
    (scaffold node).declared.filter (fun r => !builtins.contains r.display) = [] := by
  rw [declared_scaffold, List.filter_eq_nil_iff]
  intro r member
  obtain ⟨ref, inside, rfl⟩ := List.mem_map.mp member
  have listed : ref.display ∈ builtins := List.mem_map_of_mem inside
  simpa [Resource.display] using listed

theorem forM_scaffold (node : String) : (scaffold node).declared.forM validateResource = .ok () := by
  rw [declared_scaffold]
  rfl

end Catalog

namespace Transaction

variable {σ : Type} [Hosted σ] {noop : Bool} {c : Catalog} {r : Resource}

/-! ## Bringing about -/

/-- A resource is brought about and its events are logged. -/
def bring (apply : Applier σ) (noop : Bool) (r : Resource) : Action σ (List Event) := do
  let events ← eventsOf apply noop r
  events.forM fun e => Action.log .info (r.display ++ "/" ++ e.property ++ ": " ++ e.message)
  return events

def broughtAbout (noop : Bool) (r : Resource) (events : List Event) : Visit := ⟨r, some ⟨r, isDry noop r, .ok events⟩⟩

theorem forM_log {α : Type} (level : Level) (text : α → String) (l : List α) (s : σ) :
    ∃ after, (l.forM fun x => Action.log level (text x) : Action σ Unit).result s = (.ok (), after) := by
  induction l generalizing s with
  | nil => exact ⟨s, rfl⟩
  | cons x l ih =>
    obtain ⟨after, later⟩ := ih _
    exact ⟨after, (Action.result_bind_of_ok rfl).trans later⟩

/-- A visit to a resource, which is brought about unless it is to be skipped. -/
def visiting (apply : Applier σ) (noop skipped : Bool) (r : Resource) : Action σ Visit :=
  if skipped then do
    Action.log .warning (r.display ++ ": Skipping because of failed dependencies")
    return ⟨r, none⟩
  else do return broughtAbout noop r (← bring apply noop r)

/-- A step visits its resource, which is skipped when something that it depends on is blocked. -/
theorem step_eq (apply : Applier σ) (noop : Bool) (c : Catalog) (p : Progress) (r : Resource) :
    step apply noop c p r = do
      return p.visit (← visiting apply noop ((c.dependenciesOf r).any p.blocked.contains) r) := by
  rw [step, visiting]
  split
  · rfl
  · simp [bring]
    rfl

/-- A resource that depends on nothing is brought about when it is its turn. -/
theorem step_free (apply : Applier σ) (noop : Bool) (free : c.dependenciesOf r = []) (p : Progress) :
    step apply noop c p r = do return p.visit (broughtAbout noop r (← bring apply noop r)) := by
  rw [step_eq, free]
  simp [visiting]

/-- The resources of every catalog are brought about without a change. -/
theorem bring_scaffold (noop : Bool) {node : String} (member : r ∈ (Catalog.scaffold node).declared) (s : σ) :
    (bring Store.applier noop r).result s = (.ok [], s) := by
  rw [Catalog.declared_scaffold] at member
  obtain ⟨ref, inside, rfl⟩ := List.mem_map.mp member
  have nothing : ∀ ref ∈ scaffoldingRefs, ∀ dry, ResourceType.applyResource ⟨ref, ∅⟩ dry = pure [] := by
    simp only [scaffoldingRefs, List.forall_mem_cons, List.not_mem_nil, false_implies, implies_true, and_true]
    and_intros
    all_goals exact fun _ => rfl
  have applied (dry : Bool) :
      (Store.applier ⟨ref, ∅⟩ dry : Action σ (List Event)).attempt.result s = (.ok (.ok []), s) := by
    rw [Action.result_attempt, Store.applier, nothing ref inside, Action.result_onHost, Action.result_pure,
      Hosted.withHost_host]
  have made : (eventsOf Store.applier noop ⟨ref, ∅⟩).result s = (.ok [], s) := by
    rw [eventsOf]
    exact Action.result_bind_of_ok (applied _)
  rw [bring]
  exact Action.result_bind_of_ok made

/-- Resources that depend on nothing and are brought about without a change are only visited. -/
theorem foldlM_idle {apply : Applier σ} {rs : List Resource} (free : ∀ r ∈ rs, c.dependenciesOf r = [])
    (idle : ∀ r ∈ rs, ∀ s, (bring apply noop r).result s = (.ok [], s)) (node : String) (done : List Visit) (s : σ) :
    (rs.foldlM (step apply noop c) (progressOf node done)).result s =
      (.ok (progressOf node (done ++ rs.map (broughtAbout noop · []))), s) := by
  induction rs generalizing done with
  | nil =>
    rw [List.map_nil, List.append_nil]
    rfl
  | cons r rs ih =>
    obtain ⟨alone, apart⟩ := List.forall_mem_cons.mp free
    obtain ⟨own, others⟩ := List.forall_mem_cons.mp idle
    have first : (step apply noop c (progressOf node done) r).result s =
        (.ok (progressOf node (done ++ [broughtAbout noop r []])), s) := by
      rw [step_free apply noop alone, progressOf_append]
      exact Action.result_bind_of_ok (own s)
    rw [List.foldlM_cons, Action.result_bind_of_ok first, ih apart others, List.map_cons, List.append_assoc]
    rfl

/-- A transaction without relations reports its visits. -/
theorem evaluate_arranged {apply : Applier σ} {visits : List Visit} {node : String} {s after : σ} (keyed : c.Keyed)
    (visited : visits.map Visit.resource = c.declared)
    (run : (c.declared.foldlM (step apply noop c.arranged) (progressOf node [])).result s =
      (.ok (progressOf node visits), after)) :
    ∃ report, (evaluate apply noop c.arranged (.start node)).result s = (.ok report, after) ∧
      report.statuses.entries = visits.map fun v => (v.display, v.status) := by
  have apart : (visits.map Visit.display).Nodup := by
    have names := keyed.nodup
    rwa [← visited, List.map_map] at names
  exact ⟨_, evaluate_of_visits c.ordered_arranged run, progressOf_entries node visits apart⟩

omit [Hosted σ] in
theorem resources_idle (rs : List Resource) : (rs.map (broughtAbout noop · [])).map Visit.resource = rs := by
  rw [List.map_map]
  exact List.map_id rs

omit [Hosted σ] in
/-- What was brought about without an event has not failed. -/
theorem failedStatuses_eq {report : Report} {idle : List Resource} {visits : List Visit}
    (entries : report.statuses.entries =
      (idle.map (broughtAbout noop · []) ++ visits).map fun v => (v.display, v.status)) :
    report.failedStatuses = (visits.map Visit.status).filter Status.failed := by
  have none : (idle.map fun r => (broughtAbout noop r []).status).filter Status.failed = [] := by
    rw [List.filter_eq_nil_iff]
    intro status member
    obtain ⟨r, -, rfl⟩ := List.mem_map.mp member
    exact Bool.false_ne_true
  have values : report.statuses.values =
      (idle.map fun r => (broughtAbout noop r []).status) ++ visits.map Visit.status := by
    rw [Table.values, entries]
    simp [Function.comp_def]
  rw [Report.failedStatuses, values, List.filter_append, none, List.nil_append]

end Transaction

namespace Store

variable {node : String} {r : Resource}

/-- A resource can always be put into a catalog that holds it alone. -/
theorem add_empty (node : String) (r : Resource) :
    ∃ c : Catalog, (Catalog.empty node).extend r = .ok c ∧ c.Keyed ∧ c.declared = [r] := by
  obtain ⟨c, added⟩ : ∃ c, (Catalog.empty node).extend r = .ok c :=
    ⟨_, Catalog.extend_ok_iff.mpr ⟨by simp [Catalog.empty, Table.keys], rfl⟩⟩
  exact ⟨c, added, Catalog.Keyed.extend (fun e member => by cases member) added, Catalog.extend_declared added⟩

theorem catalogOf_eq {c : Catalog} (added : (Catalog.empty node).extend r = .ok c) :
    catalogOf node r = c.finalize.1.map fun _ => c.finalize.2 := by
  rw [catalogOf, added]
  change (c.finalize.1 >>= fun _ => pure c.finalize.2) = _
  cases c.finalize.1 <;> rfl

/-- What keeps a resource from being valid keeps it from a catalog that holds it alone. -/
theorem catalogOf_of_invalid {fault : Fault} (invalid : ResourceType.validateResource r = .error fault) :
    catalogOf node r = .error fault := by
  obtain ⟨c, added, -, declared⟩ := add_empty node r
  have related : c.relations = .error fault := by
    rw [Catalog.relations, declared, List.foldlM_cons, Catalog.relate, invalid]
    rfl
  rw [catalogOf_eq added, Catalog.finalize, related]
  rfl

theorem save_eq {σ : Type} [Hosted σ] (apply : Applier σ) (node : String) (noop : Bool) (r : Resource) :
    (Store.mk node noop).save apply r r.ref.key =
      .ofExcept (catalogOf node r) >>= fun c => Transaction.evaluate apply noop c (.start node) := by
  rw [save, if_neg (fun differs => differs rfl)]

end Store

namespace Local

open Transaction

variable {σ : Type} [Hosted σ] {sets : Value.SetOrder} {node : String} {noop : Bool} {r : Resource} {code : Value}
  {s between after : σ}

/-! ## Single resources -/

/-- What keeps a resource from a catalog is answered when it is a refusal, and raised otherwise. -/
def unmade (r : Resource) : Fault → Except Fault Enforcement
  | .catalog refusal => .ok (.refused refusal.message r)
  | fault => .error fault

theorem enforce_of_fault {fault : Fault} (stopped : Store.catalogOf node r = .error fault) (s : σ) :
    ((backends sets node noop).enforce r).result s = (unmade r fault, s) := by
  have tried : ((Store.mk node noop).save Store.applier r r.ref.key).attempt.result s = (.ok (.error fault), s) := by
    rw [Action.result_attempt, Store.save_eq, stopped]
    rfl
  refine (Action.result_bind_of_ok tried).trans ?_
  cases fault <;> rfl

/-- What keeps a block of code from a catalog is answered when it is a refusal, and raised otherwise. -/
def unmadeBlock : Fault → Except Fault BlockResult
  | .catalog refusal => .ok (.refused [refusal.message])
  | fault => .error fault

theorem applyBlock_unmade (apply : Applier σ) {fault : Fault}
    (stopped : (catalogOf sets node code).result s = (.error fault, after)) :
    (applyBlock apply sets node noop code).result s = (unmadeBlock fault, after) := by
  have tried : (catalogOf sets node code).attempt.result s = (.ok (.error fault), after) := by
    rw [Action.result_attempt, stopped]
  refine (Action.result_bind_of_ok tried).trans ?_
  cases fault <;> rfl

theorem applyBlock_of_fault {fault : Fault} (stopped : (catalogOf sets node code).result s = (.error fault, after)) :
    ((backends sets node noop).applyBlock code).result s = (unmadeBlock fault, after) :=
  applyBlock_unmade Store.applier stopped

/-- A block of code with a catalog is judged by the report of it. -/
theorem applyBlock_of_catalog {c : Catalog} {report : Report}
    (made : (catalogOf sets node code).result s = (.ok c, between))
    (evaluated : (evaluate Store.applier noop c (.start node)).result between = (.ok report, after)) :
    ∃ last, ((backends sets node noop).applyBlock code).result s = (.ok (judgeBlock c report), last) ∧
      OnlyLogged after last := by
  have tried : (catalogOf sets node code).attempt.result s = (.ok (.ok c), between) := by
    rw [Action.result_attempt, made]
  let result := judgeBlock c report
  let told := "Code block for " ++ node ++ " managed " ++ toString result.resources.length ++ " resources (" ++
    overallWord report ++ ")"
  refine ⟨((Action.log .debug told : Action σ Unit).result after).2, ?_, OnlyLogged.log .debug told after⟩
  refine (Action.result_bind_of_ok tried).trans ((Action.result_bind_of_ok evaluated).trans ?_)
  exact Action.result_bind_of_ok rfl

end Local

end Converge
