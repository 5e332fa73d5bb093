import Converge.Proofs.Frames
import Converge.Proofs.Transactions

/-!
# What events make known

In a dry run no resource has an event that is a success (`gives_applyResource`), and a transaction that is one
reports none (`evaluate_events`). Every status of a report is that of an application, or tells that its resource
was skipped (`Evaluated.status_cases`).
-/

namespace Converge

def NoSuccess (events : List Event) : Prop := ∀ e ∈ events, e.outcome ≠ .success

namespace NoSuccess

theorem nil : NoSuccess [] := by simp [NoSuccess]

theorem singleton {e : Event} (other : e.outcome ≠ .success) : NoSuccess [e] := by simpa [NoSuccess] using other

theorem append {first second : List Event} (earlier : NoSuccess first) (later : NoSuccess second) :
    NoSuccess (first ++ second) := by
  intro e member
  rcases List.mem_append.mp member with before | after
  · exact earlier e before
  · exact later e after

end NoSuccess

theorem gives_change (property should message : String) (action : Action Host Unit) :
    Gives NoSuccess (change property should message action true) := .pure (.singleton Outcome.noConfusion)

namespace ResourceType

/-! ## Files -/

namespace File

theorem gives_remove (path : String) : Gives NoSuccess (remove path true) := by
  have removed (action : Action Host Unit) : Gives NoSuccess (change "ensure" "absent" "removed" action true) :=
    gives_change _ _ _ action
  refine .bind (.any _) fun _ _ => .ite (.bind (.any _) fun _ _ => ?_) (.bind (.any _) fun _ _ => ?_)
  all_goals
  · refine .ite (.bind (.any _) fun _ _ => .ite (.bind (.any _) fun _ _ => .bind (.any _) fun _ _ => ?_)
      (.bind (.any _) fun _ _ => ?_)) (.pure .nil)
    all_goals exact removed _

theorem gives_create (path : String) : Gives NoSuccess (create path true) :=
  .bind (.any _) fun _ _ => .ite (.pure .nil) (gives_change _ _ _ _)

theorem gives_adjust (path : String) (content : Value) : Gives NoSuccess (adjust path content true) := by
  refine .bind (.any _) fun current _ => ?_
  split
  · exact .ite (.pure .nil) (.bind (.any _) fun bytes _ => gives_change _ _ _ _)
  · exact .throw _

/-- What is done to the place of a file, if no directory stands there. -/
theorem gives_place (path : String) (r : Resource) :
    Gives (fun placed => ∀ events, placed = some events → NoSuccess events) (place path r true) := by
  have placed {a : Action Host (List Event)} (gives : Gives NoSuccess a) :
      Gives (fun placed => ∀ events, placed = some events → NoSuccess events) (do return some (← a)) :=
    .bind gives fun events sound => .pure fun _ same => Option.some.inj same ▸ sound
  have none : ∀ events, some [] = some events → NoSuccess events :=
    fun _ same => Option.some.inj same ▸ .nil
  refine .bind (.any _) fun _ _ => .ite (.ite (.pure fun _ same => by cases same) (.pure none)) ?_
  refine .bind (.any _) fun _ _ => .ite ?_ ?_
  · exact placed (gives_change _ _ _ _)
  · split
    · exact .pure none
    · exact placed (gives_adjust path _)

theorem gives_setMode (path : String) (r : Resource) : Gives NoSuccess (setMode path r true) := by
  refine .bind (.any _) fun mode _ => ?_
  split
  · exact .pure .nil
  · refine .bind (.any _) fun _ _ => .ite (.bind (.any _) fun current _ => ?_) (.pure .nil)
    exact .ite (.pure .nil) (gives_change _ _ _ _)

theorem gives_apply (r : Resource) : Gives NoSuccess (apply r true) := by
  have moded {before : List Event} (sound : NoSuccess before) (path : String) :
      Gives NoSuccess (do return before ++ (← setMode path r true)) :=
    .bind (gives_setMode path r) fun _ later => .pure (sound.append later)
  unfold apply
  dsimp only
  split
  · exact gives_remove _
  · exact .bind (gives_create _) fun _ sound => moded sound _
  · refine .bind (gives_place _ r) fun placed sound => ?_
    split
    · exact .pure (.singleton Outcome.noConfusion)
    · exact moded (sound _ rfl) _

end File

/-! ## Commands -/

namespace Exec

/-- In a dry run nothing is started but the guard. -/
theorem gives_start (r : Resource) :
    Gives (fun outcome => ∃ events, outcome = .error events ∧ NoSuccess events) (start r true) := by
  refine .bind (.any _) fun _ _ => .ite ?_ ?_
  · exact .pure ⟨_, rfl, .nil⟩
  · exact .bind (.any _) fun _ _ => .pure ⟨_, rfl, .singleton Outcome.noConfusion⟩

theorem gives_apply (r : Resource) : Gives NoSuccess (apply r true) := by
  refine .bind (.any _) fun _ _ => .ite (.pure .nil) (.bind (.attempt (gives_start r)) fun outcome started => ?_)
  split
  · obtain ⟨events, same, sound⟩ := started _ rfl
    cases same
    exact .pure sound
  · obtain ⟨events, same, -⟩ := started _ rfl
    cases same
  · exact .bind (.any _) fun _ _ => .pure (.singleton Outcome.noConfusion)
  · exact .throw _

end Exec

/-! ## Every type -/

theorem gives_applyNotify (r : Resource) : Gives NoSuccess (applyNotify r true) :=
  .bind (.any _) fun _ _ => .pure (.singleton Outcome.noConfusion)

/-- Whatever a resource is, a dry run of it is told in no event of success. -/
theorem gives_applyResource (r : Resource) : Gives NoSuccess (applyResource r true) := by
  refine .bind (.any _) fun type _ => ?_
  cases type with
  | file => exact File.gives_apply r
  | exec => exact Exec.gives_apply r
  | notify => exact gives_applyNotify r
  | _ => exact .pure .nil

end ResourceType

/-! ## Transactions -/

theorem Table.mem_values {α : Type} {t : Table α} {v : α} : v ∈ t.values ↔ ∃ k, t.get? k = some v := by
  simp [Table.values, Table.get?_eq_some]

theorem Catalog.mem_declared_of_ordered {c : Catalog} {order : List Resource} (ordered : c.ordered = .ok order)
    {r : Resource} (member : r ∈ order) : r ∈ c.declared := by
  rw [Catalog.ordered] at ordered
  split at ordered
  · cases ordered
  · rw [← Except.ok.inj ordered, List.mem_filterMap] at member
    obtain ⟨ref, -, found⟩ := member
    exact Table.mem_values.mpr ⟨ref, found⟩

namespace Transaction

variable {σ : Type} [Hosted σ]

/-- What is kept by the log and by every application is kept by a transaction. -/
theorem leaves_evaluate {R : σ → σ → Prop} [Std.Refl R] [IsTrans σ R] {apply : Applier σ} {noop : Bool} {c : Catalog}
    (log : ∀ level message, Leaves R (Action.log level message))
    (each : ∀ r ∈ c.declared, Leaves R (apply r (isDry noop r))) (report : Report) :
    Leaves R (evaluate apply noop c report) := by
  have events (r : Resource) (member : r ∈ c.declared) : Leaves R (eventsOf apply noop r) := by
    refine .bind (.attempt (each r member)) fun outcome => ?_
    split
    · exact .pure _
    · exact .bind (log _ _) fun _ => .bind (.ofExcept _) fun _ => .pure _
  have one (p : Progress) (r : Resource) (member : r ∈ c.declared) : Leaves R (step apply noop c p r) :=
    .ite (.bind (log _ _) fun _ => .pure _)
      (.bind (events r member) fun _ => .bind (.forM _ fun _ _ => log _ _) fun _ => .pure _)
  refine .bindOf (.ofExcept _) (.ofExcept fun order same => same) fun order ordered => ?_
  have inside : ∀ r ∈ order, r ∈ c.declared := fun r => Catalog.mem_declared_of_ordered ordered
  exact .bind (.foldlM order _ fun p r member => one p r (inside r member)) fun _ => .pure _

/-- A dry application of the types of resources is no success. -/
theorem Application.noSuccess {a : Application} (own : a.IsOf (Store.applier : Applier σ)) (dry : a.dry = true) :
    NoSuccess a.events := by
  obtain ⟨s, came⟩ := own
  rw [dry] at came
  rw [Application.events]
  cases ended : a.outcome with
  | ok events => exact ResourceType.gives_applyResource a.resource (Hosted.host s) events (came.trans ended)
  | error fault => exact .singleton Outcome.noConfusion

/-- Every status of a report tells that its resource was skipped, or what one application made known. -/
theorem Evaluated.status_cases {c : Catalog} {noop : Bool} {order : List Resource} {report : Report}
    {trace : List Application} (evaluated : Evaluated c noop order report trace) {status : Status}
    (member : status ∈ report.statuses.values) : status.events = [] ∨ ∃ a ∈ trace, status = a.status := by
  obtain ⟨ref, found⟩ := Table.mem_values.mp member
  cases skipped : status.skipped with
  | true => exact .inl (evaluated.untouched ref status found skipped).1
  | false =>
    have known : ref ∈ report.statuses.keys := List.mem_map_of_mem (Table.get?_eq_some.mp found)
    rw [evaluated.statuses, List.mem_map] at known
    obtain ⟨r, inside, rfl⟩ := known
    have kept : r ∈ trace.map Application.resource := by
      rw [evaluated.applied, List.mem_filter]
      exact ⟨inside, by simp [found, skipped]⟩
    obtain ⟨a, applied, rfl⟩ := List.mem_map.mp kept
    have own := (evaluated.own a applied).2
    rw [found, Option.some.injEq] at own
    exact .inr ⟨a, applied, own⟩

theorem Evaluated.mem_order {c : Catalog} {noop : Bool} {order : List Resource} {report : Report}
    {trace : List Application} (evaluated : Evaluated c noop order report trace) {a : Application} (member : a ∈ trace) :
    a.resource ∈ order := by
  have kept := List.mem_map_of_mem (f := Application.resource) member
  rw [evaluated.applied] at kept
  exact List.mem_of_mem_filter kept

/-- A transaction of a settled catalog ends with a report, in which no dry application is a success. -/
theorem evaluate_events (noop : Bool) {c : Catalog} {order : List Resource} (settled : c.Settled order)
    (node : String) (s : Traced σ Application) : ∃ report after trace,
      (evaluate (watching Store.applier) noop c (.start node)).result s = (.ok report, after) ∧
      after.trace = s.trace ++ trace ∧ Evaluated c noop order report trace ∧
      ∀ a ∈ trace, a.dry = true → NoSuccess a.events := by
  obtain ⟨report, after, trace, run, recorded, evaluated, own⟩ :=
    evaluate_told settled (fun r _ => Store.applier_told r (isDry noop r)) node s
  exact ⟨report, after, trace, run, recorded, evaluated, fun a member => Application.noSuccess (own a member)⟩

end Transaction

end Converge
