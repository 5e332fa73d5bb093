import Converge.Proofs.Launches
import Converge.Proofs.PlainText
import Converge.Store

/-!
# The wording of what stops a resource

Code outside the program may raise what has no text, but the types do not: whatever the host or a value
makes of bringing about a resource, what stops it can be told (`applier_told`). Words that are no command
and output that is no text are told without surrogates, because what was given is not part of the text
(`fails_commandOf`).
-/

namespace Converge

open Text

def Fault.IsTold (f : Fault) : Prop := f.text = .ok f.message

theorem Fault.text_ok {f : Fault} {text : String} (told : f.text = .ok text) : text = f.message := by
  cases f with
  | untold kind cause said => cases told
  | _ => exact (Except.ok.inj told).symm

/-- A fault has a wording without surrogates. -/
def Fault.IsPlain (f : Fault) : Prop := Plain f.message

instance (f : Fault) : Decidable f.IsPlain := inferInstanceAs (Decidable (Plain f.message))

/-! ## Wordings without surrogates -/

theorem EncodeFault.plain_message (f : EncodeFault) : Plain f.message := by
  unfold EncodeFault.message
  refine .append (.append (by decide) ?_) (by decide)
  split
  · exact .append (.append (.append (by decide) (.ofList (plainChars_toDigits 16 _))) (by decide)) (plain_nat _)
  · exact .append (.append (.append (by decide) (plain_nat _)) (by decide)) (plain_nat _)

theorem Utf8Fault.plain_message (f : Utf8Fault) : Plain f.message := by
  have digit (n : Nat) : isSurrogate (Nat.digitChar n) = false := isSurrogate_digitChar n
  unfold Utf8Fault.message
  refine .append (.append (.append (by decide) ?_) (by decide)) ?_
  · split
    · exact .append (.append (.append (by decide) (.ofList (.cons (digit _) (.cons (digit _) .nil)))) (by decide))
        (plain_nat _)
    · exact .append (.append (.append (by decide) (plain_nat _)) (by decide)) (plain_nat _)
  · split <;> decide

theorem plain_typeName (v : Value) : Plain v.typeName := by
  unfold Value.typeName
  split <;> decide

theorem Host.fails_commandOf (words : List Value) (directory : Value) :
    Fails Fault.IsPlain (commandOf words directory) :=
  fails_commandOf_of (P := Fault.IsPlain) EncodeFault.plain_message
    (fun _ => Text.Plain.append (by decide) (plain_typeName _)) (by decide) (fun _ => by decide) directory

/-! ## The host -/

theorem fails_shown (v : Value) : Fails Fault.IsTold v.shown := by
  rw [Value.shown]
  split
  · exact .ok _
  · exact .error rfl

namespace Host

/-- A path is not taken for one of two reasons. -/
theorem fails_checkPath_of {P : Fault → Prop} (encoding : ∀ fault, P (.encoding fault)) (nul : P .nul) (path : String) :
    Fails P (checkPath path) := by
  rw [checkPath]
  split
  · exact .error (encoding _)
  · exact .ite (.error nul) (.ok ())

theorem fails_checkPath (path : String) : Fails Fault.IsTold (checkPath path) :=
  fails_checkPath_of (P := Fault.IsTold) (fun _ => rfl) rfl path

theorem raises_consult {α : Type} (path : String) (f : FileSystem → Place → Except Errno α) :
    Raises Fault.IsTold (consult path f) := by
  intro h fault raised
  simp only [consult, Action.result_of] at raised
  split at raised
  · next other refused =>
    cases raised
    exact fails_checkPath path fault refused
  · cases raised
  · cases raised
    rfl

theorem raises_change (path : String) (f : FileSystem → Place → Except Errno FileSystem) :
    Raises Fault.IsTold (change path f) := by
  intro h fault raised
  simp only [change, Action.result_of] at raised
  split at raised
  · next other refused =>
    cases raised
    exact fails_checkPath path fault refused
  · cases raised
  · cases raised
    rfl

theorem raises_ask (path : String) (follow : Bool) (p : Entry → Bool) : Raises Fault.IsTold (ask path follow p) := by
  intro h fault raised
  simp only [ask, Action.result_of] at raised
  split at raised
  all_goals cases raised
  rfl

theorem raises_readText (path : String) : Raises Fault.IsTold (readText path) := by
  refine .bind (raises_consult path _) fun bytes => ?_
  cases decode bytes with
  | ok s => exact .pure _
  | error fault => exact .throw rfl

theorem raises_writeText (path text : String) : Raises Fault.IsTold (writeText path text) := by
  rw [writeText]
  split
  · exact raises_change path _
  · exact .bind (raises_change path _) fun _ => .throw rfl

theorem raises_run (words : List Value) (directory : Value) : Raises Fault.IsTold (run words directory) := by
  have command : Fails Fault.IsTold (commandOf words directory) := by
    refine fails_commandOf_of (fun _ => ?_) (fun _ => ?_) ?_ (fun _ => ?_) directory <;> rfl
  refine .bind (.ofExcept command) fun command => .bind ?_ fun launch => ?_
  · exact fun _ _ same => by cases same
  · cases launch with
    | refused errno => exact .throw rfl
    | ended status output => exact .bind (.ofExcept (fails_outputText_of (fun _ => rfl) output)) fun _ => .pure _

end Host

theorem raises_print (text : String) : Raises Fault.IsTold (Action.print text : Action Host Unit) := by
  intro h fault raised
  simp only [Action.print, Action.result_of] at raised
  split at raised
  · cases raised
  · cases raised
    rfl

/-! ## Changes -/

theorem raises_change {action : Action Host Unit} (raises : Raises Fault.IsTold action)
    (property should message : String) (noop : Bool) :
    Raises Fault.IsTold (change property should message action noop) := by
  refine .ite (.pure _) (.caught raises (fun _ => .pure _) fun fault told => ?_)
  cases fault with
  | system fault => exact .pure _
  | _ => exact .throw told

namespace ResourceType

/-! ## Files -/

namespace File

theorem raises_remove (path : String) (noop : Bool) : Raises Fault.IsTold (remove path noop) := by
  have directory : Raises Fault.IsTold (Host.isDirectory path) := Host.raises_ask path _ _
  have link : Raises Fault.IsTold (Host.isLink path) := Host.raises_ask path _ _
  have present : Raises Fault.IsTold (Host.exists? path) := Host.raises_ask path _ _
  have action (directory : Bool) :
      Raises Fault.IsTold (if directory then Host.removeDirectory path else Host.unlink path) :=
    .ite (Host.raises_change path _) (Host.raises_change path _)
  refine .bind link fun _ => .ite (.bind (.pure _) fun _ => ?_) (.bind present fun _ => ?_)
  all_goals
  · refine .ite (.bind directory fun _ => .ite (.bind link fun _ => .bind (.pure _) fun _ => ?_)
      (.bind (.pure _) fun _ => ?_)) (.pure _)
    all_goals exact raises_change (action _) _ _ _ noop

theorem raises_create (path : String) (noop : Bool) : Raises Fault.IsTold (create path noop) :=
  .bind (Host.raises_ask path _ _) fun _ =>
    .ite (.pure _) (raises_change (Host.raises_change path _) _ _ _ noop)

theorem raises_writeValue (path : String) (content : Value) : Raises Fault.IsTold (writeValue path content) := by
  unfold writeValue
  split
  · exact Host.raises_writeText path _
  · exact .ite (.throw rfl) (Host.raises_writeText path _)

theorem raises_adjust (path : String) (content : Value) (noop : Bool) :
    Raises Fault.IsTold (adjust path content noop) := by
  refine .bind (Host.raises_readText path) fun current => ?_
  split
  · refine .ite (.pure _) (.bind (.ofExcept ?_) fun _ => raises_change (Host.raises_writeText path _) _ _ _ noop)
    exact .mapError fun _ _ => rfl
  · exact .throw rfl

theorem raises_place (path : String) (r : Resource) (noop : Bool) : Raises Fault.IsTold (place path r noop) := by
  refine .bind (Host.raises_ask path _ _) fun _ => .ite (.ite (.pure _) (.pure _)) ?_
  refine .bind (Host.raises_ask path _ _) fun _ => .ite ?_ ?_
  · exact .bind (raises_change (raises_writeValue path _) _ _ _ noop) fun _ => .pure _
  · split
    · exact .pure _
    · exact .bind (raises_adjust path _ noop) fun _ => .pure _

theorem fails_modeOf (r : Resource) : Fails Fault.IsTold (modeOf r) := by
  have invalid (v : Value) : Fails Fault.IsTold (do throw (.catalog (.invalidMode r.display (← v.shown))) :
      Except Fault (Option Nat)) := .bind (fails_shown v) fun _ => .error rfl
  unfold modeOf
  dsimp only
  split
  · exact .ok _
  · exact .ok _
  · exact .ite (.ok _) (invalid _)
  · split
    · exact .ok _
    · exact invalid _
  · exact invalid _

theorem raises_setMode (path : String) (r : Resource) (noop : Bool) : Raises Fault.IsTold (setMode path r noop) := by
  refine .bind (.ofExcept (fails_modeOf r)) fun mode => ?_
  split
  · exact .pure _
  · refine .bind (Host.raises_ask path _ _) fun _ =>
      .ite (.bind (Host.raises_consult path _) fun current => ?_) (.pure _)
    exact .ite (.pure _) (raises_change (Host.raises_change path _) _ _ _ noop)

/-- Whatever the host makes of a file, what stops it has a text. -/
theorem raises_apply (r : Resource) (noop : Bool) : Raises Fault.IsTold (apply r noop) := by
  unfold apply
  dsimp only
  split
  · exact raises_remove _ noop
  · exact .bind (raises_create _ noop) fun _ => .bind (raises_setMode _ r noop) fun _ => .pure _
  · refine .bind (raises_place _ r noop) fun events => ?_
    split
    · exact .pure _
    · exact .bind (raises_setMode _ r noop) fun _ => .pure _

end File

/-! ## Commands -/

namespace Exec

theorem raises_run (line directory : Value) : Raises Fault.IsTold (run line directory) :=
  .bind (.ofExcept (fails_wordsOf_of (P := Fault.IsTold) (fun _ => rfl) (fun _ => rfl) line)) fun words =>
    Host.raises_run words directory

theorem raises_commandText (r : Resource) : Raises Fault.IsTold (commandText r) := .ofExcept (fails_shown _)

theorem raises_isCreated (r : Resource) : Raises Fault.IsTold (isCreated r) := by
  unfold isCreated
  split
  · exact .ite (.pure _) (Host.raises_ask _ _ _)
  · refine .ite (.pure _) ?_
    split <;> exact .throw rfl

theorem raises_start (r : Resource) (noop : Bool) : Raises Fault.IsTold (start r noop) := by
  have guarded (directory : Value) : Raises Fault.IsTold (isGuarded r directory) := by
    unfold isGuarded
    split
    · exact .pure _
    · exact .bind (raises_run _ _) fun _ => .pure _
  refine .bind (guarded _) fun _ => .ite (.pure _) (.ite ?_ ?_)
  · exact .bind (raises_commandText r) fun _ => .pure _
  · exact .bind (raises_run _ _) fun _ => .pure _

theorem fails_statusOf (v : Value) : Fails Fault.IsTold (statusOf v) := by
  unfold statusOf
  split
  case h_3 => exact .error rfl
  all_goals exact .ok _

theorem fails_statusesOf (vs : List Value) : Fails Fault.IsTold (statusesOf vs) := by
  induction vs with
  | nil => exact .ok _
  | cons v vs ih =>
    refine .bind (fails_statusOf v) fun status => ?_
    cases status with
    | none => exact .ok _
    | some i => exact .bind ih fun _ => .ok _

theorem fails_returnsOf (r : Resource) : Fails Fault.IsTold (returnsOf r) := by
  refine .bind (fails_statusesOf _) fun statuses => ?_
  cases statuses with
  | some statuses => exact .ok _
  | none => exact .bind (fails_shown _) fun _ => .error rfl

theorem raises_judge (r : Resource) (status : Int) (output : String) : Raises Fault.IsTold (judge r status output) := by
  refine .bind (.forM _ fun _ => .onConsole _) fun _ => .bind (.ofExcept (fails_returnsOf r)) fun returns => ?_
  refine .ite (.pure _) (.bind (.mapM _ fun _ => .ofExcept (fails_shown _)) fun _ => ?_)
  exact .bind (raises_commandText r) fun _ => .pure _

/-- Whatever a command does, what stops it has a text. -/
theorem raises_apply (r : Resource) (noop : Bool) : Raises Fault.IsTold (apply r noop) := by
  refine .bind (raises_isCreated r) fun _ => .ite (.pure _) (.caught (raises_start r noop) ?_ ?_)
  · intro outcome
    cases outcome with
    | error events => exact .pure _
    | ok run => exact raises_judge r _ _
  · intro fault told
    cases fault with
    | system fault => exact .bind (raises_commandText r) fun _ => .pure _
    | _ => exact .throw told

end Exec

/-! ## Every type -/

theorem raises_applyNotify (r : Resource) (noop : Bool) : Raises Fault.IsTold (applyNotify r noop) :=
  .bind (.ofExcept (fails_shown _)) fun _ => .ite (.pure _) (.bind (raises_print _) fun _ => .pure _)

/-- What stops a resource of any type has a text. -/
theorem raises_applyResource (r : Resource) (noop : Bool) : Raises Fault.IsTold (applyResource r noop) := by
  refine .bind (.ofExcept ?_) fun type => ?_
  · rw [get]
    split
    · exact .ok _
    · exact .error rfl
  · cases type with
    | file => exact File.raises_apply r noop
    | exec => exact Exec.raises_apply r noop
    | notify => exact raises_applyNotify r noop
    | _ => exact .pure []

/-- The permission bits of a valid file make sense. -/
theorem modeOf_of_valid {r : Resource} (valid : validateFile r = .ok ()) : ∃ mode, modeOf r = .ok mode := by
  cases given : modeOf r with
  | ok mode => exact ⟨mode, rfl⟩
  | error fault =>
    simp only [validateFile, given] at valid
    split at valid
    · cases valid
    · split at valid
      · obtain ⟨_, -, valid⟩ := bind_eq_ok.mp valid
        cases valid
      · split at valid
        all_goals cases valid

/-- The statuses that a valid command may return are whole numbers. -/
theorem returnsOf_of_valid {r : Resource} (valid : validateExec r = .ok ()) :
    ∃ statuses, returnsOf r = .ok statuses := by
  cases given : returnsOf r with
  | ok statuses => exact ⟨statuses, rfl⟩
  | error fault =>
    simp only [validateExec, given] at valid
    split at valid
    · split at valid
      · cases valid
      · split at valid
        · cases valid
        · obtain ⟨shown, -, valid⟩ := bind_eq_ok.mp valid
          split at valid
          all_goals cases valid
    · cases valid

end ResourceType

/-- What the program's own applier raises, on the host of any state, has a text. -/
theorem Store.applier_told {σ : Type} [Hosted σ] (r : Resource) (dry : Bool) :
    Raises Fault.IsTold (Store.applier r dry : Action σ (List Event)) :=
  Raises.onHost (ResourceType.raises_applyResource r dry)

end Converge
