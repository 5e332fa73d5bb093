import Converge.Host.Basic

/-!
# What actions come to

The outcome of an action is that of its parts in a row. A state can be seen through a projection that
keeps the host, and an action on the whole can follow one on the part (`Follows`); whatever is put
together from actions that follow others follows what is put together from those. A `Traced` state
keeps a record of what was asked of it, and a `noted` action follows the one that it notes.
-/

namespace Converge

/-! ## Results -/

/-- Two steps in a row succeed when the first does and the second does on its result. -/
theorem bind_eq_ok {ε α β : Type} {x : Except ε α} {f : α → Except ε β} {b : β} :
    (x >>= f) = .ok b ↔ ∃ a, x = .ok a ∧ f a = .ok b := by
  cases x with
  | error fault => simp [bind, Except.bind]
  | ok a => simp [bind, Except.bind]

theorem eq_ok_of_toOption {ε α : Type} {got : Except ε α} {a : α} (some : got.toOption = some a) : got = .ok a := by
  cases got with
  | error e => cases some
  | ok b => exact congrArg _ (Option.some.inj some)

theorem map_ok_iff {ε α β : Type} {r : Except ε α} {f : α → β} {b : β} :
    r.map f = .ok b ↔ ∃ a, r = .ok a ∧ f a = b := by
  cases r with
  | error e => simp [Except.map]
  | ok a => simp [Except.map]

theorem mapError_ok_iff {ε δ α : Type} {r : Except ε α} {f : ε → δ} {a : α} :
    r.mapError f = .ok a ↔ r = .ok a := by
  cases r with
  | error e =>
    constructor
    · intro same
      cases same
    · intro same
      cases same
  | ok a => exact ⟨fun same => by rw [Except.ok.inj same], fun same => by rw [Except.ok.inj same]; rfl⟩

theorem forall_of_mapM_ok {ε α β : Type} {f : α → Except ε β} {p : β → Prop}
    (each : ∀ a b, f a = .ok b → p b) (as : List α) {bs : List β} (run : as.mapM f = .ok bs) :
    ∀ b ∈ bs, p b := by
  induction as generalizing bs with
  | nil =>
    cases run
    simp
  | cons a as ih =>
    simp only [List.mapM_cons, bind_eq_ok] at run
    obtain ⟨first, here, rest, later, run⟩ := run
    rw [← Except.ok.inj run]
    intro b member
    rcases List.mem_cons.mp member with rfl | member
    · exact each a b here
    · exact ih later b member

/-! ## Outcomes -/

/-- A host without files, on which no command can be started. -/
def Host.bare : Host :=
  { files := ⟨[], 0o022⟩, cwd := [], environment := ∅, console := .blank,
    launcher := fun _ _ files => (.refused .noEntry, files), asked := [] }

namespace Action

variable {σ α β : Type}

@[simp] theorem result_pure (x : α) (s : σ) : (pure x : Action σ α).result s = (.ok x, s) := rfl

@[simp] theorem result_throw (fault : Fault) (s : σ) :
    (throw fault : Action σ α).result s = (.error fault, s) := rfl

@[simp] theorem result_get (s : σ) : (get : Action σ σ).result s = (.ok s, s) := rfl

@[simp] theorem result_ofExcept (r : Except Fault α) (s : σ) : (ofExcept r).result s = (r, s) := rfl

@[simp] theorem result_attempt (a : Action σ α) (s : σ) :
    a.attempt.result s = (.ok (a.result s).1, (a.result s).2) := rfl

@[simp] theorem result_onHost [Hosted σ] (a : Action Host α) (s : σ) :
    (onHost a).result s =
      ((a.result (Hosted.host s)).1, Hosted.withHost s (a.result (Hosted.host s)).2) := rfl

theorem result_bind (a : Action σ α) (f : α → Action σ β) (s : σ) :
    (a >>= f).result s = match a.result s with
      | (.ok x, after) => (f x).result after
      | (.error fault, after) => (.error fault, after) := by
  simp only [result, ExceptT.run, StateT.run, bind, ExceptT.bind, ExceptT.mk, ExceptT.bindCont, StateT.bind]
  cases a s with
  | mk outcome after => cases outcome <;> rfl

theorem result_bind_of_ok {a : Action σ α} {f : α → Action σ β} {s after : σ} {x : α}
    (done : a.result s = (.ok x, after)) : (a >>= f).result s = (f x).result after := by
  rw [result_bind, done]

theorem result_bind_of_error {a : Action σ α} {f : α → Action σ β} {s after : σ} {fault : Fault}
    (failed : a.result s = (.error fault, after)) : (a >>= f).result s = (.error fault, after) := by
  rw [result_bind, failed]

end Action

/-! ## Faults -/

section

variable {σ α β : Type} {P : Fault → Prop}

/-- A result is no fault but one of a kind. -/
def Fails (P : Fault → Prop) (x : Except Fault α) : Prop := ∀ fault, x = .error fault → P fault

/-- What stops an action is a fault of a kind. -/
def Raises (P : Fault → Prop) (a : Action σ α) : Prop := ∀ s fault, (a.result s).1 = .error fault → P fault

namespace Fails

theorem ok (x : α) : Fails P (.ok x) := fun _ same => by cases same

theorem error {fault : Fault} (kind : P fault) : Fails P (.error fault : Except Fault α) := by
  rintro _ ⟨⟩
  exact kind

/-- What comes later need only be known for the result of the first part. -/
theorem bindOf {x : Except Fault α} {f : α → Except Fault β} (first : Fails P x)
    (later : ∀ a, x = .ok a → Fails P (f a)) : Fails P (x >>= f) := by
  cases x with
  | error fault => exact error (first fault rfl)
  | ok a => exact later a rfl

theorem bind {x : Except Fault α} {f : α → Except Fault β} (first : Fails P x) (later : ∀ a, Fails P (f a)) :
    Fails P (x >>= f) := first.bindOf fun a _ => later a

theorem ite {c : Prop} [Decidable c] {x y : Except Fault α} (yes : Fails P x) (no : Fails P y) :
    Fails P (if c then x else y) := by
  split
  · exact yes
  · exact no

theorem map {x : Except Fault α} {f : α → β} (fails : Fails P x) : Fails P (x.map f) := by
  cases x with
  | error fault => exact error (fails fault rfl)
  | ok a => exact ok (f a)

theorem mapError {ε : Type} {x : Except ε α} {f : ε → Fault} (kind : ∀ e, x = .error e → P (f e)) :
    Fails P (x.mapError f) := by
  cases x with
  | error e => exact error (kind e rfl)
  | ok a => exact ok a

theorem mapMOf {f : α → Except Fault β} (l : List α) (each : ∀ a ∈ l, Fails P (f a)) : Fails P (l.mapM f) := by
  induction l with
  | nil => exact ok []
  | cons a l ih =>
    rw [List.mapM_cons]
    exact bind (each a (by simp)) fun _ => bind (ih fun b member => each b (by simp [member])) fun _ => ok _

theorem mapM {f : α → Except Fault β} (l : List α) (each : ∀ a, Fails P (f a)) : Fails P (l.mapM f) :=
  mapMOf l fun a _ => each a

theorem foldlMOf {f : β → α → Except Fault β} (l : List α) (start : β) (each : ∀ b, ∀ a ∈ l, Fails P (f b a)) :
    Fails P (l.foldlM f start) := by
  induction l generalizing start with
  | nil => exact ok start
  | cons a l ih =>
    rw [List.foldlM_cons]
    exact bind (each start a (by simp)) fun next => ih next fun b c member => each b c (by simp [member])

end Fails

namespace Raises

theorem pure (x : α) : Raises P (Pure.pure x : Action σ α) := fun _ _ same => by cases same

theorem throw {fault : Fault} (kind : P fault) : Raises P (MonadExcept.throw fault : Action σ α) := by
  rintro _ _ ⟨⟩
  exact kind

theorem ofExcept {x : Except Fault α} (fails : Fails P x) : Raises P (.ofExcept x : Action σ α) :=
  fun _ fault same => fails fault same

theorem bind {a : Action σ α} {f : α → Action σ β} (first : Raises P a) (later : ∀ x, Raises P (f x)) :
    Raises P (a >>= f) := by
  intro s fault raised
  rw [Action.result_bind] at raised
  cases run : a.result s with
  | mk outcome after =>
    cases outcome with
    | error other =>
      rw [run] at raised
      cases raised
      exact first s fault (by rw [run])
    | ok x =>
      rw [run] at raised
      exact later x after fault raised

/-- What stops an attempted action goes on as it is, or is answered. -/
theorem caught {a : Action σ α} {f : Except Fault α → Action σ β} (first : Raises P a)
    (done : ∀ x, Raises P (f (.ok x))) (stopped : ∀ fault, P fault → Raises P (f (.error fault))) :
    Raises P (a.attempt >>= f) := by
  intro s fault raised
  rw [Action.result_bind_of_ok (Action.result_attempt a s)] at raised
  cases outcome : (a.result s).1 with
  | error other =>
    rw [outcome] at raised
    exact stopped other (first s other outcome) _ fault raised
  | ok x =>
    rw [outcome] at raised
    exact done x _ fault raised

theorem ite {c : Prop} [Decidable c] {a b : Action σ α} (yes : Raises P a) (no : Raises P b) :
    Raises P (if c then a else b) := by
  split
  · exact yes
  · exact no

theorem onHost [Hosted σ] {a : Action Host α} (raises : Raises P a) : Raises P (.onHost a : Action σ α) :=
  fun _ fault same => raises _ fault same

theorem onConsole [Hosted σ] (f : Console → Console) : Raises P (.onConsole f : Action σ Unit) :=
  fun _ _ same => by cases same

theorem forM {f : α → Action σ Unit} (l : List α) (each : ∀ x, Raises P (f x)) : Raises P (l.forM f) := by
  induction l with
  | nil => exact pure ()
  | cons x l ih => exact bind (each x) fun _ => ih

theorem mapM {f : α → Action σ β} (l : List α) (each : ∀ x, Raises P (f x)) : Raises P (l.mapM f) := by
  induction l with
  | nil => exact pure []
  | cons x l ih =>
    rw [List.mapM_cons]
    exact bind (each x) fun _ => bind ih fun _ => pure _

end Raises

end

/-! ## Following -/

section

variable {σ τ α β : Type}

/-- An action on a whole follows one on a part of it: it has the same outcome and leaves the part as
that one does. -/
def Follows (part : τ → σ) (a : Action τ α) (b : Action σ α) : Prop :=
  ∀ t, b.result (part t) = ((a.result t).1, part (a.result t).2)

/-- The host of a whole is that of a part of it. -/
structure Projects [Hosted τ] [Hosted σ] (part : τ → σ) : Prop where
  host : ∀ t, Hosted.host (part t) = Hosted.host t
  withHost : ∀ t h, part (Hosted.withHost t h) = Hosted.withHost (part t) h

namespace Follows

variable {part : τ → σ}

theorem pure (x : α) : Follows part (Pure.pure x) (Pure.pure x) := fun _ => rfl

theorem throw (fault : Fault) :
    Follows part (MonadExcept.throw fault : Action τ α) (MonadExcept.throw fault) := fun _ => rfl

theorem ofExcept (r : Except Fault α) : Follows part (.ofExcept r) (.ofExcept r) := fun _ => rfl

theorem bind {a : Action τ α} {b : Action σ α} {f : α → Action τ β} {g : α → Action σ β}
    (first : Follows part a b) (later : ∀ x, Follows part (f x) (g x)) :
    Follows part (a >>= f) (b >>= g) := by
  intro t
  rw [Action.result_bind, Action.result_bind, first t]
  cases a.result t with
  | mk outcome after =>
    cases outcome with
    | error fault => rfl
    | ok x => exact later x after

theorem get {f : τ → Action τ α} {g : σ → Action σ α} (later : ∀ t, Follows part (f t) (g (part t))) :
    Follows part (MonadState.get >>= f) (MonadState.get >>= g) := by
  intro t
  rw [Action.result_bind_of_ok (Action.result_get _), Action.result_bind_of_ok (Action.result_get _)]
  exact later t t

theorem ite {c : Prop} [Decidable c] {a a' : Action τ α} {b b' : Action σ α} (yes : Follows part a b)
    (no : Follows part a' b') : Follows part (if c then a else a') (if c then b else b') := by
  split
  · exact yes
  · exact no

theorem attempt {a : Action τ α} {b : Action σ α} (follows : Follows part a b) :
    Follows part a.attempt b.attempt := by
  intro t
  simp [follows t]

theorem onHost [Hosted τ] [Hosted σ] (projects : Projects part) (a : Action Host α) :
    Follows part (.onHost a) (.onHost a) := by
  intro t
  simp [projects.host, projects.withHost]

theorem onConsole [Hosted τ] [Hosted σ] (projects : Projects part) (f : Console → Console) :
    Follows part (.onConsole f) (.onConsole f) := by
  intro t
  simp [Action.onConsole, projects.host, projects.withHost]

theorem print [Hosted τ] [Hosted σ] (projects : Projects part) (text : String) :
    Follows part (.print text) (.print text) := by
  intro t
  simp only [Action.print, Action.result_of, projects.host]
  cases (Hosted.host t).console.print text with
  | error fault => rfl
  | ok console => simp [projects.withHost]

theorem printError [Hosted τ] [Hosted σ] (projects : Projects part) (text : String) :
    Follows part (.printError text) (.printError text) := onConsole projects _

theorem log [Hosted τ] [Hosted σ] (projects : Projects part) (level : Level) (message : String) :
    Follows part (.log level message) (.log level message) := onConsole projects _

theorem forM {f : β → Action τ Unit} {g : β → Action σ Unit} (l : List β)
    (each : ∀ x ∈ l, Follows part (f x) (g x)) : Follows part (l.forM f) (l.forM g) := by
  induction l with
  | nil => exact pure ()
  | cons x l ih =>
    refine bind (each x (by simp)) fun _ => ih fun y member => each y (by simp [member])

theorem foldlM {f : α → β → Action τ α} {g : α → β → Action σ α} (l : List β) (start : α)
    (each : ∀ x y, Follows part (f x y) (g x y)) :
    Follows part (l.foldlM f start) (l.foldlM g start) := by
  induction l generalizing start with
  | nil => exact pure start
  | cons y l ih =>
    rw [List.foldlM_cons, List.foldlM_cons]
    exact bind (each start y) fun x => ih x

end Follows

end

/-! ## Traces -/

/-- A state beside a record of what was asked of it. -/
structure Traced (σ ε : Type) where
  world : σ
  trace : List ε

section

variable {σ ε α : Type}

instance [Hosted σ] : Hosted (Traced σ ε) where
  host t := Hosted.host t.world
  withHost t h := { t with world := Hosted.withHost t.world h }
  host_withHost _ _ := Hosted.host_withHost _ _
  withHost_host t := by cases t; simp [Hosted.withHost_host]
  withHost_withHost _ _ _ := by simp [Hosted.withHost_withHost]

theorem Traced.projects [Hosted σ] : Projects (Traced.world : Traced σ ε → σ) :=
  ⟨fun _ => rfl, fun _ _ => rfl⟩

/-- An action that is recorded when it ends, with its outcome. -/
def noted (describe : Except Fault α → ε) (a : Action σ α) : Action (Traced σ ε) α :=
  .of fun t => ((a.result t.world).1, ⟨(a.result t.world).2, t.trace ++ [describe (a.result t.world).1]⟩)

/-- An action that neither stops nor leaves anything on the record. -/
def Silent (a : Action (Traced σ ε) α) : Prop :=
  ∀ t, ∃ x after, a.result t = (.ok x, after) ∧ after.trace = t.trace

theorem Silent.log [Hosted σ] (level : Level) (message : String) :
    Silent (.log level message : Action (Traced σ ε) Unit) := fun _ => ⟨(), _, rfl, rfl⟩

theorem Silent.forM {β : Type} {f : β → Action (Traced σ ε) Unit} (l : List β)
    (each : ∀ x, Silent (f x)) : Silent (l.forM f) := by
  induction l with
  | nil => exact fun t => ⟨(), t, rfl, rfl⟩
  | cons x l ih =>
    intro t
    obtain ⟨_, between, first, same⟩ := each x t
    obtain ⟨_, after, later, same'⟩ := ih between
    refine ⟨(), after, ?_, same'.trans same⟩
    exact (Action.result_bind_of_ok first).trans later

theorem Follows.noted (describe : Except Fault α → ε) (a : Action σ α) :
    Follows Traced.world (noted describe a) a := fun _ => rfl

end

end Converge
