import Mathlib.Order.Defs.Unbundled
import Converge.Proofs.Actions

/-!
# What actions leave and give

A relation between the state before and the state after holds of whatever is put together from actions
of which it holds, when it can be carried along (`Leaves`). In the same way a property of results passes
from the parts of an action to the whole (`Gives`). The relation that is needed most says that nothing but
records of the log has come to a state (`OnlyLogged`).
-/

namespace Converge

variable {σ α β : Type}

/-! ## Results -/

/-- What an action returns, when it returns, has a property. -/
def Gives (P : α → Prop) (a : Action σ α) : Prop := ∀ s x, (a.result s).1 = .ok x → P x

namespace Gives

variable {P : α → Prop} {Q : β → Prop}

theorem any (a : Action σ α) : Gives (fun _ => True) a := fun _ _ _ => trivial

theorem pure {x : α} (holds : P x) : Gives P (Pure.pure x : Action σ α) := by
  rintro _ _ ⟨⟩
  exact holds

theorem throw (fault : Fault) : Gives P (MonadExcept.throw fault : Action σ α) := fun _ _ same => by cases same

theorem ofExcept {r : Except Fault α} (holds : ∀ x, r = .ok x → P x) : Gives P (.ofExcept r : Action σ α) :=
  fun _ x same => holds x same

theorem bind {a : Action σ α} {f : α → Action σ β} (first : Gives P a) (later : ∀ x, P x → Gives Q (f x)) :
    Gives Q (a >>= f) := by
  intro s y given
  rw [Action.result_bind] at given
  cases run : a.result s with
  | mk outcome after =>
    rw [run] at given
    cases outcome with
    | error fault => cases given
    | ok x => exact later x (first s x (by rw [run])) after y given

theorem ite {c : Prop} [Decidable c] {a b : Action σ α} (yes : Gives P a) (no : Gives P b) :
    Gives P (if c then a else b) := by
  split
  · exact yes
  · exact no

/-- The outcome of an attempt is a fault, or a result with the property. -/
theorem attempt {a : Action σ α} (gives : Gives P a) : Gives (fun outcome => ∀ x, outcome = .ok x → P x) a.attempt := by
  rintro s outcome ⟨⟩ x same
  exact gives s x same

end Gives

/-! ## States -/

/-- What an action leaves is in a relation to what it began with. -/
def Leaves (R : σ → σ → Prop) (a : Action σ α) : Prop := ∀ s, R s (a.result s).2

namespace Leaves

variable {R : σ → σ → Prop} [Std.Refl R]

theorem pure (x : α) : Leaves R (Pure.pure x : Action σ α) := fun s => Std.Refl.refl s

theorem throw (fault : Fault) : Leaves R (MonadExcept.throw fault : Action σ α) := fun s => Std.Refl.refl s

theorem ofExcept (r : Except Fault α) : Leaves R (.ofExcept r : Action σ α) := fun s => Std.Refl.refl s

omit [Std.Refl R] in
theorem attempt {a : Action σ α} (leaves : Leaves R a) : Leaves R a.attempt := leaves

omit [Std.Refl R] in
theorem ite {c : Prop} [Decidable c] {a b : Action σ α} (yes : Leaves R a) (no : Leaves R b) :
    Leaves R (if c then a else b) := by
  split
  · exact yes
  · exact no

variable [IsTrans σ R]

omit [Std.Refl R] in
/-- What comes later need only be known for what the first part gives. -/
theorem bindOf {P : α → Prop} {a : Action σ α} {f : α → Action σ β} (first : Leaves R a) (gives : Gives P a)
    (later : ∀ x, P x → Leaves R (f x)) : Leaves R (a >>= f) := by
  intro s
  have start := first s
  rw [Action.result_bind]
  cases run : a.result s with
  | mk outcome after =>
    rw [run] at start
    cases outcome with
    | error fault => exact start
    | ok x => exact IsTrans.trans _ _ _ start (later x (gives s x (by rw [run])) after)

omit [Std.Refl R] in
theorem bind {a : Action σ α} {f : α → Action σ β} (first : Leaves R a) (later : ∀ x, Leaves R (f x)) :
    Leaves R (a >>= f) := first.bindOf (.any a) fun x _ => later x

theorem forM {f : α → Action σ Unit} (l : List α) (each : ∀ x ∈ l, Leaves R (f x)) : Leaves R (l.forM f) := by
  induction l with
  | nil => exact pure ()
  | cons x l ih => exact bind (each x (by simp)) fun _ => ih fun y member => each y (by simp [member])

theorem foldlM {f : β → α → Action σ β} (l : List α) (start : β) (each : ∀ b, ∀ x ∈ l, Leaves R (f b x)) :
    Leaves R (l.foldlM f start) := by
  induction l generalizing start with
  | nil => exact pure start
  | cons x l ih =>
    rw [List.foldlM_cons]
    exact bind (each start x (by simp)) fun next => ih next fun b y member => each b y (by simp [member])

end Leaves

/-! ## The log -/

/-- Nothing but records of the log has come to a state. -/
def OnlyLogged [Hosted σ] (s t : σ) : Prop :=
  ∃ err records, t = Hosted.withHost s
    { Hosted.host s with console := { (Hosted.host s).console with err, records } }

namespace OnlyLogged

variable [Hosted σ]

instance : Std.Refl (OnlyLogged (σ := σ)) := ⟨fun s => ⟨_, _, (Hosted.withHost_host s).symm⟩⟩

instance : IsTrans σ OnlyLogged := by
  refine ⟨?_⟩
  rintro s _ _ ⟨_, _, rfl⟩ ⟨err, records, rfl⟩
  refine ⟨err, records, ?_⟩
  rw [Hosted.withHost_withHost, Hosted.host_withHost]

theorem files {s t : σ} (logged : OnlyLogged s t) : (Hosted.host t).files = (Hosted.host s).files := by
  obtain ⟨err, records, rfl⟩ := logged
  rw [Hosted.host_withHost]

theorem out {s t : σ} (logged : OnlyLogged s t) :
    (Hosted.host t).console.out = (Hosted.host s).console.out := by
  obtain ⟨err, records, rfl⟩ := logged
  rw [Hosted.host_withHost]

theorem trace {ε : Type} {s t : Traced σ ε} (logged : OnlyLogged s t) : t.trace = s.trace := by
  obtain ⟨err, records, rfl⟩ := logged
  rfl

theorem world {ε : Type} {s t : Traced σ ε} (logged : OnlyLogged s t) : OnlyLogged s.world t.world := by
  obtain ⟨err, records, rfl⟩ := logged
  exact ⟨err, records, rfl⟩

theorem log (level : Level) (message : String) : Leaves OnlyLogged (Action.log level message : Action σ Unit) := by
  intro s
  refine ⟨((Hosted.host s).console.log level message).err, ((Hosted.host s).console.log level message).records, ?_⟩
  have same (c : Console) : c.log level message = { c with
      err := (c.log level message).err, records := (c.log level message).records } := by
    rw [Console.log]
    split
    · rfl
    · split <;> rfl
  rw [← same]
  rfl

end OnlyLogged

end Converge
