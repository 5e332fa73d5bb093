import Converge.Backend.Choice
import Converge.Proofs.DryRuns
import Converge.Proofs.Local

/-!
# Dry runs under either strategy

What its backends keep is kept by a session, as far as a script keeps it itself (`leaves_run`). In this process a
dry run keeps the files, whatever the script asks for, as long as all of this takes part in it; a delegate keeps them
when its own command asks for a dry run, which the settings of the run have no part in (`run_dry`,
`run_delegateNoop`).
-/

namespace Converge

/-! ## What a script does itself -/

/-- Each step of a script's own is of a kind. -/
def Routine.Steps (P : Action Host Value → Prop) : Routine → Prop
  | .done => True
  | .raise _ => True
  | .own step next => P step ∧ ∀ x, (next x).Steps P
  | .resource _ _ next => ∀ x, (next x).Steps P
  | .apply _ _ next => ∀ x, (next x).Steps P

/-- Each step of a script's own is of a kind, given the facts. -/
def Script.Steps (facts : Table Value) (P : Action Host Value → Prop) : Script → Prop
  | .instructions _ _ => True
  | .calls _ program => (program facts).Steps P

theorem Routine.Steps.imp {P Q : Action Host Value → Prop} (implies : ∀ step, P step → Q step) {program : Routine}
    (steps : program.Steps P) : program.Steps Q := by
  induction program with
  | done => trivial
  | raise fault => trivial
  | own step next ih => exact ⟨implies step steps.1, fun x => ih x (steps.2 x)⟩
  | resource positional named next ih => exact fun x => ih x (steps x)
  | apply positional named next ih => exact fun x => ih x (steps x)

theorem Script.Steps.imp {facts : Table Value} {P Q : Action Host Value → Prop} (implies : ∀ step, P step → Q step)
    {script : Script} (steps : script.Steps facts P) : script.Steps facts Q := by
  cases script with
  | instructions path is => trivial
  | calls path program => exact Routine.Steps.imp implies steps

/-- Lines one after the other have no steps beside their calls. -/
theorem Routine.steps_ofLines (P : Action Host Value → Prop) (scope : Expr.Scope) (lines : List Statement) :
    (ofLines scope lines).Steps P := by
  have onward {α : Type} {rest : Routine} (later : rest.Steps P) (x : Except Fault α) :
      (Routine.onward rest x).Steps P := by
    cases x with
    | error fault => trivial
    | ok x => exact later
  exact of_ofLines (P := Steps P) trivial (fun _ => trivial) (fun _ _ _ later x => onward later x)
    (fun _ _ _ later x => onward later x) scope lines

/-! ## What a session keeps -/

section

variable {σ α : Type}

/-- A relation of the rest of the state, as one of runs. -/
def Run.Rel (R : σ → σ → Prop) (t u : Run σ) : Prop := R t.world u.world

instance {R : σ → σ → Prop} [Std.Refl R] : Std.Refl (Run.Rel R) := ⟨fun t => Std.Refl.refl t.world⟩

instance {R : σ → σ → Prop} [IsTrans σ R] : IsTrans (Run σ) (Run.Rel R) :=
  ⟨fun t u v => IsTrans.trans t.world u.world v.world⟩

variable [Hosted σ] {R : σ → σ → Prop}

/-- A relation holds between states of which one only shows more. -/
def Shows (R : σ → σ → Prop) : Prop := ∀ s t, Shown s t → R s t

namespace Shows

theorem run (shows : Shows R) : Shows (Run.Rel R) := fun _ _ ⟨c, kind, same⟩ =>
  shows _ _ ⟨c, kind, congrArg Run.world same⟩

theorem log (shows : Shows R) (level : Level) (message : String) :
    Leaves R (Action.log level message : Action σ Unit) :=
  fun s => shows _ _ (.log level message s)

theorem printError (shows : Shows R) (text : String) : Leaves R (Action.printError text : Action σ Unit) :=
  fun s => shows _ _ (.printError text s)

theorem print (shows : Shows R) (text : String) : Leaves R (Action.print text : Action σ Unit) :=
  fun s => shows _ _ (.print text s)

end Shows

namespace Session

omit [Hosted σ] in
theorem leaves_onWorld {a : Action σ α} (leaves : Leaves R a) : Leaves (Run.Rel R) (onWorld a) :=
  fun t => leaves t.world

variable [Std.Refl R]

omit [Hosted σ] in
theorem leaves_record (f : Ledger → Ledger) : Leaves (Run.Rel R) (record f) := fun t => Std.Refl.refl t.world

variable [IsTrans σ R] (shows : Shows R)

include shows

theorem leaves_printIf (asked : Bool) (text : Except Fault String) : Leaves (Run.Rel R) (printIf asked text) :=
  .ite (.bind (.ofExcept _) fun _ => shows.run.print _) (.pure ())

variable (s : Session σ)

theorem leaves_conclude (y : Reply) : Leaves (Run.Rel R) (s.conclude y) := by
  have last : Leaves (Run.Rel R) (record (·.recordResources y.resources)) := leaves_record _
  refine .bind (leaves_printIf shows _ _) fun _ => .ite (.bind (leaves_record _) fun _ => ?_) last
  exact .ite (.bind (.throw _) fun _ => last) last

omit [IsTrans σ R] in
theorem leaves_settle (outcome : Except Fault Unit) : Leaves (Run.Rel R) (settle outcome) := by
  unfold settle
  split
  · exact .pure ()
  · exact shows.run.printError _
  · exact shows.run.printError _
  · exact leaves_record _
  · exact .throw _

theorem leaves_close : Leaves (Run.Rel R) (close : Action (Run σ) Nat) := by
  have looks : Leaves (Run.Rel R) (get : Action (Run σ) (Run σ)) := fun t => Std.Refl.refl t.world
  exact .bind looks fun _ => .bind (shows.run.print _) fun _ =>
    .bind (.forM _ fun _ _ => shows.run.printError _) fun _ => .pure _

variable (enforced : ∀ r, Leaves R (s.backends.enforce r)) (applied : ∀ code, Leaves R (s.backends.applyBlock code))

include enforced in
theorem leaves_resource (type name params : Value) (extra : Table Value) :
    Leaves (Run.Rel R) (s.resource type name params extra) := by
  refine .bind (.ofExcept _) fun entries => ?_
  dsimp only
  split
  · exact .throw _
  · rw [enforce_eq]
    exact .bind (leaves_printIf shows _ _) fun _ => .bind (leaves_onWorld (enforced _)) fun _ =>
      .bind (leaves_conclude shows s _) fun _ => .pure _

include applied in
theorem leaves_apply (code : Value) : Leaves (Run.Rel R) (s.apply code) := by
  have block : Leaves (Run.Rel R) (s.blockResult code) := by
    unfold blockResult
    split
    · exact leaves_onWorld (applied _)
    · split
      · exact leaves_onWorld (applied _)
      · exact .ite (.ofExcept _) (.throw _)
  rw [apply_eq]
  exact .bind (leaves_printIf shows _ _) fun _ => .bind block fun _ => .bind (leaves_conclude shows s _) fun _ => .pure _

include enforced applied

theorem leaves_perform (i : Instruction) : Leaves (Run.Rel R) (s.perform i) := by
  unfold perform
  split
  · exact .bind (leaves_resource shows s enforced _ _ _ _) fun _ => .pure _
  · exact .bind (leaves_apply shows s applied _) fun _ => .pure _
  · split
    · exact .bind (leaves_apply shows s applied _) fun _ => .pure _
    · exact .throw _

theorem leaves_proceed {program : Routine} (steps : program.Steps fun step => Leaves R (Action.onHost step)) :
    Leaves (Run.Rel R) (s.proceed program) := by
  induction program with
  | done => exact .pure ()
  | raise fault => exact .throw fault
  | own step next ih => exact .bind (.attempt fun t => steps.1 t.world) fun x => ih x (steps.2 x)
  | resource positional named next ih =>
    have call : Leaves (Run.Rel R) (s.callResource positional named) :=
      .bind (.ofExcept _) fun _ => leaves_resource shows s enforced _ _ _ _
    exact .bind (.attempt call) fun x => ih x (steps x)
  | apply positional named next ih =>
    have call : Leaves (Run.Rel R) (s.callApply positional named) :=
      .bind (.ofExcept _) fun _ => leaves_apply shows s applied _
    exact .bind (.attempt call) fun x => ih x (steps x)

theorem leaves_evaluate {script : Script}
    (steps : script.Steps s.runtime.facts fun step => Leaves R (Action.onHost step)) :
    Leaves (Run.Rel R) (s.evaluate script) := by
  have inside (path : String) {a : Action (Run σ) Unit} (leaves : Leaves (Run.Rel R) a) :
      Leaves (Run.Rel R) (inScript path a) := by
    refine .bind (.attempt leaves) fun outcome => ?_
    split
    · exact .pure _
    · exact .throw _
  cases script with
  | instructions path is => exact .forM _ fun i _ => inside path (leaves_perform shows s enforced applied i)
  | calls path program => exact inside path (leaves_proceed shows s enforced applied steps)

end Session

end

section

variable {σ ε : Type} [Hosted σ] {R : Traced σ ε → Traced σ ε → Prop} [Std.Refl R] [IsTrans _ R]

/-- The script that is loaded keeps what its calls and its own steps keep, where the host is seen as it was. -/
theorem Session.leaves_body (shows : Shows R) (s : Session (Traced σ ε))
    (enforced : ∀ r, Leaves R (s.backends.enforce r)) (applied : ∀ code, Leaves R (s.backends.applyBlock code))
    (path : String) {h : Host}
    (steps : ∀ script, ((Script.load s.runtime path).result h).1 = .ok script →
      script.Steps s.runtime.facts fun step => Leaves R (Action.onHost step))
    (t : Run (Traced σ ε)) (files : (Hosted.host t).files = h.files) (cwd : (Hosted.host t).cwd = h.cwd) :
    R t.world ((s.body path).result t).2.world := by
  have looks := onHost_result (Looks.load s.runtime path) rfl t files cwd
  cases loaded : ((Script.load s.runtime path).result h).1 with
  | error fault =>
    rw [loaded] at looks
    rw [Session.body, Action.result_bind_of_error looks]
    exact Std.Refl.refl t.world
  | ok script =>
    rw [loaded] at looks
    rw [Session.body, Action.result_bind_of_ok looks]
    have carried : Leaves (Run.Rel R) (do
        Action.log .debug ("Evaluating " ++ path)
        s.evaluate script) :=
      .bind (shows.run.log _ _) fun _ => leaves_evaluate shows s enforced applied (steps script loaded)
    exact carried t

/-- What is kept by every call of a backend, by the steps of the script that is loaded, and whatever is printed, is kept
by a run. -/
theorem Session.leaves_run (shows : Shows R) (s : Session (Traced σ ε))
    (enforced : ∀ r, Leaves R (s.backends.enforce r))
    (applied : ∀ code, Leaves R (s.backends.applyBlock code)) (path : String) (extra : List String)
    (t : Run (Traced σ ε))
    (steps : ∀ script, ((Script.load s.runtime (Path.normal path)).result (Hosted.host t)).1 = .ok script →
      script.Steps s.runtime.facts fun step => Leaves R (Action.onHost step)) :
    R t.world ((s.run path extra).result t).2.world := by
  have present := onHost_result (Looks.exists? (Path.normal path)) rfl t rfl rfl
  cases found : ((Host.exists? (Path.normal path)).result (Hosted.host t)).1 with
  | error fault =>
    rw [found] at present
    rw [run, Action.result_bind_of_error present]
    exact Std.Refl.refl t.world
  | ok there =>
    cases there with
    | false =>
      rw [found] at present
      rw [run, Action.result_bind_of_ok present]
      exact Std.Refl.refl t.world
    | true =>
      obtain ⟨start, -, trace, shown, begun⟩ := run_present path extra t found
      have begins : R t.world start.world := by
        obtain ⟨c, kind, same⟩ := shown
        refine shows _ _ ⟨c, kind, ?_⟩
        obtain ⟨ledger, world, calls⟩ := start
        subst same trace
        rfl
      have body := s.leaves_body shows enforced applied (Path.normal path) steps start shown.files shown.cwd
      have closes (outcome : Except Fault Unit) : Leaves (Run.Rel R) (do
          settle outcome
          close : Action (Run (Traced σ ε)) Nat) :=
        .bind (leaves_settle shows outcome) fun _ => leaves_close shows
      rw [begun s, Action.result_bind_of_ok (Action.result_attempt _ start)]
      exact IsTrans.trans _ _ _ begins (IsTrans.trans _ _ _ body (closes _ _))

end

/-! ## Keeping the files -/

section

variable {σ : Type} [Hosted σ]

/-- Two states have the same files, and commands do the same in them. -/
structure SameSystem (s t : σ) : Prop where
  files : (Hosted.host t).files = (Hosted.host s).files
  launcher : (Hosted.host t).launcher = (Hosted.host s).launcher

/-- The system stays the same, where commands are of a kind. -/
def Keeps (P : Launcher → Prop) (s t : σ) : Prop := P (Hosted.host s).launcher → SameSystem s t

namespace Keeps

variable {P : Launcher → Prop}

instance : Std.Refl (Keeps (σ := σ) P) := ⟨fun _ _ => ⟨rfl, rfl⟩⟩

instance : IsTrans σ (Keeps P) := by
  -- The second part begins with the same launcher, so that it is still of the kind.
  refine ⟨fun s t u first second kind => ?_⟩
  have between := first kind
  have last := second (between.launcher.symm ▸ kind)
  exact ⟨last.files.trans between.files, last.launcher.trans between.launcher⟩

theorem shows : Shows (Keeps (σ := σ) P) := fun _ _ shown _ => ⟨shown.files, shown.launcher⟩

theorem of_logged {s t : σ} (logged : OnlyLogged s t) : Keeps P s t := by
  obtain ⟨err, records, rfl⟩ := logged
  exact shows _ _ ⟨{ (Hosted.host s).console with err, records }, rfl, rfl⟩

theorem onHost {α : Type} {a : Action Host α} (leaves : Leaves (Keeps P) a) :
    Leaves (Keeps P) (.onHost a : Action σ α) := by
  intro s kind
  have kept := leaves (Hosted.host s) kind
  rw [Action.result_onHost]
  constructor
  · rw [Hosted.host_withHost]
    exact kept.files
  · rw [Hosted.host_withHost]
    exact kept.launcher

end Keeps

/-- Calls were put on the record, and the system stays the same as far as they are of a kind. -/
def KeepsFor (P : Launcher → Prop) (dry : Request → Prop) (s t : Traced σ Call) : Prop :=
  ∃ calls, t.trace = s.trace ++ calls ∧ ((∀ c ∈ calls, dry c.request) → Keeps P s.world t.world)

namespace KeepsFor

variable {P : Launcher → Prop} {dry : Request → Prop}

instance : Std.Refl (KeepsFor (σ := σ) P dry) := ⟨fun s => ⟨[], by simp, fun _ => Std.Refl.refl s.world⟩⟩

instance : IsTrans _ (KeepsFor (σ := σ) P dry) := by
  refine ⟨fun s t u ⟨first, earlier, kept⟩ ⟨second, later, kept'⟩ => ⟨first ++ second, ?_, fun all => ?_⟩⟩
  · rw [later, earlier, List.append_assoc]
  · rw [List.forall_mem_append] at all
    exact IsTrans.trans s.world t.world u.world (kept all.1) (kept' all.2)

theorem shows : Shows (KeepsFor (σ := σ) P dry) := fun s _ ⟨c, kind, same⟩ =>
  ⟨[], by rw [same, List.append_nil]; rfl, fun _ => Keeps.shows _ _ ⟨c, kind, congrArg Traced.world same⟩⟩

end KeepsFor

/-- A step on the host leaves the system as it is. -/
def IsTame (step : Action Host Value) : Prop := Leaves SameSystem step

/-- A run keeps the system as far as each of its calls does, where its script has only tame steps of its own. -/
theorem Session.run_keeps (s : Session σ) (P : Launcher → Prop) (dry : Request → Prop)
    (enforced : ∀ r, dry (.resource r) → Leaves (Keeps P) (s.backends.enforce r))
    (applied : ∀ code, dry (.block code) → Leaves (Keeps P) (s.backends.applyBlock code)) (path : String)
    (extra : List String) (t : Run σ)
    (tame : ∀ script, ((Script.load s.runtime (Path.normal path)).result (Hosted.host t)).1 = .ok script →
      script.Steps s.runtime.facts IsTame) : ∃ outcome after calls, (s.run path extra).result t = (outcome, after) ∧
      ((s.against s.backends.recorded).run path extra).result ⟨t.ledger, t.world, []⟩ =
        (outcome, ⟨after.ledger, after.world, calls⟩) ∧
      ((∀ c ∈ calls, dry c.request) → Keeps P t.world after.world) := by
  have resources (r : Resource) : Leaves (KeepsFor P dry) (s.backends.recorded.enforce r) :=
    fun t => ⟨[_], rfl, fun all => enforced r (all _ List.mem_cons_self) t.world⟩
  have blocks (code : Value) : Leaves (KeepsFor P dry) (s.backends.recorded.applyBlock code) :=
    fun t => ⟨[_], rfl, fun all => applied code (all _ List.mem_cons_self) t.world⟩
  obtain ⟨outcome, ⟨ledger, world, calls⟩, run⟩ : ∃ outcome after,
      ((s.against s.backends.recorded).run path extra).result ⟨t.ledger, t.world, []⟩ = (outcome, after) := ⟨_, _, rfl⟩
  have plain := s.run_follows Traced.projects (Backends.recorded_follow _) path extra ⟨t.ledger, t.world, []⟩
  have steps {step : Action Host Value} (quiet : IsTame step) :
      Leaves (KeepsFor P dry) (Action.onHost step : Action (Traced σ Call) Value) :=
    fun t => ⟨[], by simp [Hosted.withHost], fun _ => Keeps.onHost (fun h _ => quiet h) t.world⟩
  obtain ⟨trace, same, kept⟩ := (s.against s.backends.recorded).leaves_run KeepsFor.shows resources blocks path extra
    ⟨t.ledger, t.world, []⟩ fun script loaded => (tame script loaded).imp fun _ => steps
  rw [run] at plain kept same
  obtain rfl : calls = trace := same
  exact ⟨outcome, ⟨ledger, world⟩, calls, plain, run, kept⟩

end

/-- The calls of a script of instructions are made for them. -/
theorem Session.request_of_run {σ : Type} [Hosted σ] (s : Session σ) {path : String} {extra : List String}
    {is : List Instruction} {t after : Run σ} (loads : Loads s.runtime (Hosted.host t) path is) {outcome : Except Fault Nat}
    {calls : List Call} (recorded : ((s.against s.backends.recorded).run path extra).result ⟨t.ledger, t.world, []⟩ =
      (outcome, ⟨after.ledger, after.world, calls⟩)) : ∀ c ∈ calls, ∃ i ∈ is, i.request = .ok c.request := by
  obtain ⟨others, _, _, -, run, course, -⟩ := s.run_recorded s.backends.lead_anyState path extra [] t trivial loads
  rw [recorded] at run
  obtain ⟨-, same⟩ := Prod.mk.inj run
  obtain ⟨-, same⟩ := Run.mk.inj same
  obtain ⟨-, rfl⟩ := Traced.mk.inj same
  intro c member
  have listed : (.ok c.request : Except Fault Request) ∈ calls.map fun c => .ok c.request :=
    List.mem_map_of_mem member
  rw [← course.asked, List.mem_map] at listed
  obtain ⟨i, inside, request⟩ := listed
  exact ⟨i, List.mem_of_mem_take inside, request⟩

/-! ## In this process -/

/-- A resource is no command, and takes part in a dry run. -/
def Resource.IsDry (r : Resource) : Prop := r.ref.type ≠ ResourceType.exec.name ∧ r.StaysDry

/-- All that a block of code declares takes part in a dry run. -/
def IsDryCode (sets : Value.SetOrder) (node : String) (code : Value) : Prop :=
  ∀ c, (Catalog.compile sets node true code).2 = .ok c → ∀ r ∈ c.declared, r.IsDry

namespace Local

variable {σ : Type} [Hosted σ] {sets : Value.SetOrder}

theorem leaves_evaluate_dry {c : Catalog} (dry : ∀ r ∈ c.declared, r.IsDry) (report : Report) :
    Leaves OnlyLogged (Transaction.evaluate Store.applier true c report : Action σ Report) :=
  Transaction.leaves_evaluate_dry (fun r member => (dry r member).1) (fun r member => (dry r member).2) report

/-- A resource that takes part is only announced. -/
theorem leaves_enforce_dry (node : String) {r : Resource} (dry : r.IsDry) :
    Leaves OnlyLogged ((backends sets node true : Backends σ).enforce r) := by
  have evaluated : Leaves OnlyLogged (do
      let c ← .ofExcept (Store.catalogOf node r)
      Transaction.evaluate Store.applier true c (.start node) : Action σ Report) := by
    refine .bindOf (.ofExcept _) (.ofExcept fun c same => same) fun c found => leaves_evaluate_dry ?_ _
    intro other member
    obtain rfl := List.mem_singleton.mp ((catalogOf_settled found).perm.mem_iff.mpr member)
    exact dry
  refine .bind (.attempt (.ite (.bind (.throw _) fun _ => evaluated) evaluated)) fun outcome => ?_
  split
  · exact .ofExcept _
  · exact .ofExcept _
  · exact .throw _

/-- The catalog of a block is made of what the block declares. -/
theorem gives_catalogOf (node : String) (code : Value) :
    Gives (fun c => ∃ d, (Catalog.compile sets node true code).2 = .ok d ∧ c = d.finalize.2)
      (catalogOf sets node code : Action σ Catalog) := by
  rw [catalogOf_eq]
  refine .bind (.any _) fun _ _ => .bind (.ofExcept fun d same => same) fun d compiled => ?_
  exact .bind (.any _) fun _ _ => .pure ⟨d, compiled, rfl⟩

/-- A block of code whose resources take part is only announced. -/
theorem leaves_applyBlock_dry {node : String} {code : Value} (dry : IsDryCode sets node code) :
    Leaves OnlyLogged ((backends sets node true : Backends σ).applyBlock code) := by
  refine .bindOf (.attempt (catalogOf_logs sets node code)) (.attempt (gives_catalogOf node code)) fun outcome given => ?_
  split
  · exact .ofExcept _
  · exact .throw _
  · obtain ⟨d, compiled, rfl⟩ := given _ rfl
    refine .bind (leaves_evaluate_dry ?_ _) fun _ => .bind (.log _ _) fun _ => .pure _
    rw [Catalog.finalize_declared]
    exact dry d compiled

end Local

/-! ## By another command -/

/-- The word that asks a command for a dry run. -/
def dryWord : String := "--noop"

/-- What commands do to the files is what becomes of them when their last word is applied as a block of code,
in a dry run exactly when the words before ask for one; sets have an order there too. -/
def Launcher.Applies (order : Value.SetOrder) (launcher : Launcher) : Prop :=
  ∀ asked directory words code files dry, Text.Plain code → (dry = true ↔ dryWord.toUTF8 ∈ words) →
    ∃ h : Host, h.files = files ∧ (launcher asked ⟨words ++ [code.toUTF8], directory⟩ files).2 =
      (((Local.backends order defaultNode dry).applyBlock (.text code)).result h).2.files

theorem wholeWord_ok {s : String} (plain : Text.Plain s) {bytes : ByteArray}
    (word : Host.wholeWord (.text s) = .ok bytes) : bytes = s.toUTF8 := by
  obtain ⟨whole, found, word⟩ := bind_eq_ok.mp word
  rw [Host.wordOf, Text.encodeRaw_of_plain plain] at found
  obtain rfl := Except.ok.inj found
  split at word
  · cases word
  · exact (Except.ok.inj word).symm

theorem mem_of_mapM_ok {ε α β : Type} {f : α → Except ε β} {as : List α} {bs : List β} (run : as.mapM f = .ok bs)
    {a : α} (member : a ∈ as) : ∃ b ∈ bs, f a = .ok b := by
  induction as generalizing bs with
  | nil => cases member
  | cons first as ih =>
    simp only [List.mapM_cons, bind_eq_ok] at run
    obtain ⟨b, here, rest, later, run⟩ := run
    cases run
    rcases List.mem_cons.mp member with rfl | member
    · exact ⟨b, by simp, here⟩
    · obtain ⟨c, inside, found⟩ := ih later member
      exact ⟨c, by simp [inside], found⟩

/-- The command of words that ask for a dry run, and of code after them. -/
theorem commandOf_ok {words : List String} (asks : dryWord ∈ words) {code : String} (plain : Text.Plain code)
    {command : Command} (made : Host.commandOf (words.map .text ++ [.text code]) .null = .ok command) :
    ∃ first, dryWord.toUTF8 ∈ first ∧ command = ⟨first ++ [code.toUTF8], none⟩ := by
  obtain ⟨first, last, before, here, rfl⟩ := Host.commandOf_snoc made
  rw [wholeWord_ok plain here]
  obtain ⟨asking, inside, found⟩ := mem_of_mapM_ok before (List.mem_map_of_mem asks)
  rw [wholeWord_ok (by decide) found] at inside
  exact ⟨first, inside, rfl⟩

namespace Delegate

variable {order : Value.SetOrder}

/-- A command that asks for a dry run keeps the system, where commands apply the code that they are given. -/
theorem leaves_command {words : List String} (asks : dryWord ∈ words) {code : String} (plain : Text.Plain code)
    (dry : IsDryCode order defaultNode (.text code)) :
    Leaves (Keeps (Launcher.Applies order)) (Host.run (words.map .text ++ [.text code]) .null) := by
  refine .bindOf (.ofExcept _) (.ofExcept fun command made => commandOf_ok asks plain made) ?_
  rintro command ⟨first, inside, rfl⟩
  refine .bind ?_ fun launch => ?_
  · intro h applies
    change h.launcher.Applies order at applies
    obtain ⟨k, files, same⟩ := applies h.asked none first code h.files true plain ⟨fun _ => inside, fun _ => rfl⟩
    have logged := Local.leaves_applyBlock_dry dry k
    generalize (((Local.backends order defaultNode true).applyBlock (.text code)).result k).2 = left at same logged
    have kept : left.files = k.files := logged.files
    exact ⟨same.trans (kept.trans files), rfl⟩
  · cases launch with
    | refused errno => exact .throw _
    | ended status output => exact .bind (.ofExcept _) fun _ => .pure _

variable {σ : Type} [Hosted σ] {d : Delegate} (asks : dryWord ∈ d.words)
include asks

theorem leaves_runAndShow {code : String} (plain : Text.Plain code) (dry : IsDryCode order defaultNode (.text code)) :
    Leaves (Keeps (Launcher.Applies order)) (d.runAndShow (.text code) : Action σ (Int × String)) := by
  have logged (message : String) : Leaves (Keeps (Launcher.Applies order)) (Action.log .debug message : Action σ Unit) :=
    Keeps.shows.log _ _
  refine .bind (.bind (logged _) fun _ => .bind (.attempt (Keeps.onHost (leaves_command asks plain dry))) fun outcome => ?_)
    fun ended => ?_
  · split
    · exact .pure _
    · exact .pure _
    · exact .ite (.pure _) (.throw _)
  · exact .ite (.bind (Keeps.shows.print _) fun _ => .pure _) (.pure _)

theorem leaves_enforce {r : Resource} (dry : ∀ code, Catalog.render [r] = .ok code →
      Text.Plain code ∧ IsDryCode order defaultNode (.text code)) :
    Leaves (Keeps (Launcher.Applies order)) (d.enforce r : Action σ Enforcement) := by
  unfold enforce
  split
  · exact .ite (.ofExcept _) (.throw _)
  · exact .throw _
  · next code rendered =>
    obtain ⟨plain, stays⟩ := dry code rendered
    exact .bind (leaves_runAndShow asks plain stays) fun _ => .ite (.ofExcept _) (.pure _)

theorem leaves_applyBlock {code : String} (plain : Text.Plain code) (dry : IsDryCode order defaultNode (.text code)) :
    Leaves (Keeps (Launcher.Applies order)) (d.applyBlock (.text code) : Action σ BlockResult) :=
  .bind (leaves_runAndShow asks plain dry) fun _ => .ite (.ofExcept _) (.pure _)

end Delegate

/-! ## Strategies -/

namespace Strategy

variable {σ : Type} [Hosted σ]

/-- What a strategy applies for a request takes part in a dry run: the resource or the block itself in this
process, and else the code that is handed over. -/
def TakesPart (sets order : Value.SetOrder) : Strategy → Request → Prop
  | .inProcess _ _, .resource r => r.IsDry
  | .inProcess node _, .block code => IsDryCode sets node code
  | .delegate _, .resource r =>
    ∀ code, Catalog.render [r] = .ok code → Text.Plain code ∧ IsDryCode order defaultNode (.text code)
  | .delegate _, .block (.text code) => Text.Plain code ∧ IsDryCode order defaultNode (.text code)
  | .delegate _, .block _ => False

variable {executable : String} {settings : Settings} {environment : Table String} {asked : Option String}
  {strategy : Strategy}

/-- The settings say of the strategy in this process whether it is a dry run, and nothing of it to a delegate. -/
theorem choose_dry (dry : settings.noop = true) (chosen : choose executable environment settings asked = .ok strategy) :
    strategy = .inProcess settings.node true ∨ ∃ d, strategy = .delegate d ∧
      choose executable environment { settings with noop := false } asked = .ok (.delegate d) := by
  have named : nameOf environment { settings with noop := false } asked = nameOf environment settings asked := rfl
  rw [choose, ofName] at chosen ⊢
  rw [named]
  dsimp only at chosen ⊢
  split at chosen
  · rw [dry] at chosen
    exact .inl (Except.ok.inj chosen).symm
  · next other =>
    split at chosen
    · next delegated =>
      refine .inr ⟨_, (Except.ok.inj chosen).symm, ?_⟩
      rw [if_neg other, if_pos delegated]
    · cases chosen

/-- A run under settings that ask for a dry run, of any script that leaves the files itself and of which all calls take
part in the dry run - those of a script of records are made for these -: in this process the files are left as they
were. A delegate leaves them so if its own words ask for a dry run and commands apply the code that they are given;
these words are the same whatever the settings ask for. -/
theorem run_dry (dry : settings.noop = true) (chosen : choose executable environment settings asked = .ok strategy)
    (options : Options) (runtime : Runtime) (order : Value.SetOrder) (path : String) (extra : List String) (t : Run σ)
    (tame : ∀ script, ((Script.load runtime (Path.normal path)).result (Hosted.host t)).1 = .ok script →
      script.Steps runtime.facts IsTame) :
    ∃ outcome after calls,
      ((⟨strategy.backends runtime.sets, options, runtime⟩ : Session σ).run path extra).result t = (outcome, after) ∧
      ((⟨(strategy.backends runtime.sets).recorded, options, runtime⟩ : Session (Traced σ Call)).run path extra).result
        ⟨t.ledger, t.world, []⟩ = (outcome, ⟨after.ledger, after.world, calls⟩) ∧
      (∀ is, Loads runtime (Hosted.host t) path is → ∀ c ∈ calls, ∃ i ∈ is, i.request = .ok c.request) ∧
      ((∀ c ∈ calls, strategy.TakesPart runtime.sets order c.request) →
        (∀ d, strategy = .delegate d → dryWord ∈ d.words ∧ (Hosted.host t).launcher.Applies order) →
        (Hosted.host after).files = (Hosted.host t).files) ∧
      ∀ d, strategy = .delegate d →
        choose executable environment { settings with noop := false } asked = .ok strategy := by
  rcases choose_dry dry chosen with rfl | ⟨d, rfl, same⟩
  · obtain ⟨outcome, after, calls, run, recorded, kept⟩ :=
      (⟨(Strategy.inProcess settings.node true).backends runtime.sets, options, runtime⟩ : Session σ).run_keeps
        (fun _ => True) ((Strategy.inProcess settings.node true).TakesPart runtime.sets order)
        (fun r part s => Keeps.of_logged (Local.leaves_enforce_dry settings.node part s))
        (fun code part s => Keeps.of_logged (Local.leaves_applyBlock_dry part s)) path extra t tame
    exact ⟨outcome, after, calls, run, recorded, fun is loads => Session.request_of_run _ loads recorded,
      fun part _ => (kept part trivial).files, fun d other => by cases other⟩
  · let usual (launcher : Launcher) : Prop := dryWord ∈ d.words ∧ launcher.Applies order
    have blocks (code : Value) (part : (Strategy.delegate d).TakesPart runtime.sets order (.block code)) :
        Leaves (Keeps usual) (((Strategy.delegate d).backends runtime.sets).applyBlock code : Action σ BlockResult) := by
      intro s kind
      cases code with
      | text code => exact Delegate.leaves_applyBlock kind.1 part.1 part.2 s kind.2
      | _ => exact absurd part id
    obtain ⟨outcome, after, calls, run, recorded, kept⟩ :=
      (⟨(Strategy.delegate d).backends runtime.sets, options, runtime⟩ : Session σ).run_keeps usual
        ((Strategy.delegate d).TakesPart runtime.sets order)
        (fun r part s kind => Delegate.leaves_enforce kind.1 part s kind.2) blocks path extra t tame
    exact ⟨outcome, after, calls, run, recorded, fun is loads => Session.request_of_run _ loads recorded,
      fun part kind => (kept part (kind d rfl)).files, fun _ _ => same⟩

/-- What a command ends with after it applied its last word, in a dry run if it is asked for one. -/
def applying : Launcher := fun _ command files =>
  match command.words.reverse with
  | [] => (.ended 0 .empty, files)
  | last :: before =>
    match Text.decode last with
    | .error _ => (.ended Delegate.notUsable .empty, files)
    | .ok code =>
      let dry := before.any fun word => word.data == dryWord.toUTF8.data
      let (outcome, h) := ((Local.backends .asPut defaultNode dry).applyBlock (.text code)).result { Host.bare with files }
      match outcome with
      | .ok block => (.ended (if block.succeeded then 0 else 1) .empty, h.files)
      | .error _ => (.ended 1 .empty, h.files)

theorem applies_applying : applying.Applies .asPut := by
  intro asked directory words code files dry plain asks
  have same : (words.reverse.any fun word => word.data == dryWord.toUTF8.data) = dry := by
    rw [Bool.eq_iff_iff, asks, List.any_reverse, List.any_eq_true]
    simp [← ByteArray.ext_iff]
  refine ⟨{ Host.bare with files }, rfl, ?_⟩
  simp only [applying, List.reverse_append, List.reverse_cons, List.reverse_nil, List.nil_append, List.singleton_append,
    Text.decode_toUTF8, same]
  generalize (Action.result _ _) = left
  obtain ⟨outcome, h⟩ := left
  cases outcome <;> rfl

/-- Code that declares a file. -/
def oneFile : String := "\x7b\"file\": \x7b\"/f\": \x7b\x7d\x7d\x7d"

/-- A host with a script of one record, for such a block, on which commands apply the code that they are given. -/
def oneBlock : Host :=
  let script := "[\x7b\"call\": \"apply\", \"code\": \"\x7b\\\"file\\\": \x7b\\\"/f\\\": \x7b\x7d\x7d\x7d\"\x7d]\n"
  { Host.bare with
    files := ⟨[([], .directory 0o755), (["s.yaml"], .file script.toUTF8 0o644)], 0o022⟩, launcher := applying }

/-- The outcome of loading is the script of one record. -/
def isOneBlock : Except Fault Script → Bool
  | .ok (.instructions path [.block (.text code)]) => path == "/s.yaml" && code == oneFile
  | _ => false

theorem oneBlock_loads : Loads Session.plainly oneBlock "/s.yaml" [.block (.text oneFile)] := by
  have loaded : isOneBlock ((Script.load Session.plainly "/s.yaml").result oneBlock).1 = true := by decide +kernel
  refine ⟨rfl, ?_⟩
  change ((Script.load Session.plainly "/s.yaml").result oneBlock).1 = _
  unfold isOneBlock at loaded
  split at loaded
  · next found =>
    rw [Bool.and_eq_true, beq_iff_eq, beq_iff_eq] at loaded
    obtain ⟨rfl, rfl⟩ := loaded
    exact found
  · cases loaded

theorem isDryCode_oneFile : IsDryCode .asPut defaultNode (.text oneFile) := by
  have tame : ((Catalog.compile .asPut defaultNode true (.text oneFile)).2.toOption.map fun c => c.declared.all fun r =>
      r.ref.type != ResourceType.exec.name && r.parameters.entries.isEmpty) = some true := by decide +kernel
  intro c compiled r member
  rw [compiled] at tame
  have each := List.all_eq_true.mp (Option.some.inj tame) r member
  rw [Bool.and_eq_true, bne_iff_ne, List.isEmpty_iff] at each
  refine ⟨each.1, .inl ?_⟩
  rw [Resource.param?, Table.get?_eq_none, Table.keys, each.2]
  simp

/-- Settings that ask for a dry run and for a delegate whose words are given. -/
def drySettings (command : Option (List String)) : Settings := ⟨.delegate, defaultNode, true, command⟩

theorem run_dry_oneBlock : ∃ d, choose "converge" ∅ (drySettings (some ["converge", "apply", dryWord, "--execute"])) none =
      .ok (.delegate d) ∧ dryWord ∈ d.words ∧ oneBlock.launcher.Applies .asPut ∧
    ∃ outcome after,
      ((⟨(Strategy.delegate d).backends .asPut, .default, Session.plainly⟩ : Session Host).run "/s.yaml" []).result
        ⟨.empty, oneBlock⟩ = (outcome, after) ∧ after.world.files = oneBlock.files := by
  have chosen : choose "converge" ∅ (drySettings (some ["converge", "apply", dryWord, "--execute"])) none =
      .ok (.delegate ⟨"converge", ["apply", dryWord, "--execute"]⟩) := rfl
  have tame : ∀ script, ((Script.load Session.plainly (Path.normal "/s.yaml")).result oneBlock).1 = .ok script →
      script.Steps Session.plainly.facts IsTame := by
    intro script loaded
    cases oneBlock_loads.script.symm.trans loaded
    trivial
  obtain ⟨outcome, after, calls, run, -, made, kept, -⟩ :=
    run_dry rfl chosen .default Session.plainly .asPut "/s.yaml" [] (⟨.empty, oneBlock⟩ : Run Host) tame
  refine ⟨_, chosen, by decide, applies_applying, outcome, after, run, kept (fun c member => ?_) fun d same => ?_⟩
  · obtain ⟨i, inside, request⟩ := made _ oneBlock_loads c member
    obtain rfl := List.mem_singleton.mp inside
    rw [← Except.ok.inj request]
    exact ⟨by decide +kernel, isDryCode_oneFile⟩
  · obtain rfl := Strategy.delegate.inj same
    exact ⟨by decide, applies_applying⟩

/-- A run has ended without a failure and has made a file. -/
def hasMade : Except Fault Nat × Run Host → Bool
  | (.ok failures, after) => failures == 0 && (after.world.files.get? ["f"]).isSome
  | _ => false

/-- A session of the usual delegate, which is not asked for a dry run in its own words. -/
def unasked : Session Host := ⟨(Strategy.delegate (.usual "converge")).backends .asPut, .default, Session.plainly⟩

/-- A delegate that is not asked in its own words changes the files, though the settings ask for a dry run. -/
theorem run_delegateNoop : (drySettings none).noop = true ∧
    choose "converge" ∅ (drySettings none) none = .ok (.delegate (.usual "converge")) ∧
      oneBlock.launcher.Applies .asPut ∧
    Loads Session.plainly oneBlock "/s.yaml" [.block (.text oneFile)] ∧ IsDryCode .asPut defaultNode (.text oneFile) ∧
    oneBlock.files.get? ["f"] = none ∧ ∃ after, (unasked.run "/s.yaml" []).result ⟨.empty, oneBlock⟩ = (.ok 0, after) ∧
      (after.world.files.get? ["f"]).isSome = true := by
  have made : hasMade ((unasked.run "/s.yaml" []).result ⟨.empty, oneBlock⟩) = true := by decide +kernel
  refine ⟨rfl, rfl, applies_applying, oneBlock_loads, isDryCode_oneFile, by decide, ?_⟩
  generalize (unasked.run "/s.yaml" []).result ⟨.empty, oneBlock⟩ = ended at made
  unfold hasMade at made
  split at made
  · next failures after =>
    rw [Bool.and_eq_true, beq_iff_eq] at made
    obtain ⟨rfl, found⟩ := made
    exact ⟨after, rfl, found⟩
  · cases made

end Strategy

end Converge
