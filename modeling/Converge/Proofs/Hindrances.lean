import Converge.Proofs.Announcements
import Converge.Proofs.CommandCourses

/-!
# What hinders resources

Bringing about a valid resource returns events, in which what the system refuses is told as a failure; but a few things
stop it with a fault instead (`Hindered`), and nothing else does (`apply_returns_iff`). One of them is a file that is
to have a content and whose bytes are no text (`apply_letteredFile`).
-/

namespace Converge

/-! ## Actions that complete -/

/-- An action ends with a result. -/
def Completes {α : Type} (a : Action Host α) (h : Host) : Prop := ∃ x h', a.result h = (.ok x, h')

/-- An action stops with a fault that is no refusal of the system. -/
def Stops {α : Type} (a : Action Host α) (h : Host) : Prop := ∃ fault, NoRefusal fault ∧ (a.result h).1 = .error fault

namespace Completes

variable {α β : Type} {h mid : Host}

theorem pure (x : α) (h : Host) : Completes (Pure.pure x) h := ⟨x, h, rfl⟩

theorem bind_iff {a : Action Host α} {f : α → Action Host β} {x : α} (done : a.result h = (.ok x, mid)) :
    Completes (a >>= f) h ↔ Completes (f x) mid := by
  rw [Completes, Action.result_bind_of_ok done, Completes]

theorem not_bind {a : Action Host α} {f : α → Action Host β} {fault : Fault}
    (failed : a.result h = (.error fault, mid)) : ¬ Completes (a >>= f) h := by
  rintro ⟨y, after, done⟩
  rw [Action.result_bind_of_error failed] at done
  cases done

/-- What always completes later is decided on by what comes first. -/
theorem bind_iff_of {a : Action Host α} {f : α → Action Host β}
    (later : ∀ x mid, a.result h = (.ok x, mid) → Completes (f x) mid) : Completes (a >>= f) h ↔ Completes a h := by
  constructor
  · rintro ⟨y, after, done⟩
    obtain ⟨x, mid, first, -⟩ := Action.result_bind_eq_ok.mp done
    exact ⟨x, mid, first⟩
  · rintro ⟨x, mid, first⟩
    exact (bind_iff first).mpr (later x mid first)

/-- What is only made of the result does not stop. -/
theorem map_iff {a : Action Host α} {f : α → β} : Completes (do return f (← a)) h ↔ Completes a h :=
  bind_iff_of fun x mid _ => .pure (f x) mid

end Completes

/-- A change completes unless it is made in earnest and stops; a refusal of the system is an event. -/
theorem completes_change_iff {property should message : String} {action : Action Host Unit} {noop : Bool} {h : Host} :
    Completes (change property should message action noop) h ↔ ¬ (noop = false ∧ Stops action h) := by
  cases noop with
  | true => exact ⟨fun _ => by simp, fun _ => .pure _ h⟩
  | false =>
    rw [change, if_neg (by simp), Completes.bind_iff (Action.result_attempt _ h)]
    cases tried : (action.result h).1 with
    | ok done => exact ⟨fun _ => by simp [Stops, tried], fun _ => .pure _ _⟩
    | error fault =>
      cases fault with
      | system refusal => exact ⟨fun _ => by simp [Stops, tried, NoRefusal], fun _ => .pure _ _⟩
      | _ =>
        refine ⟨?_, fun free => absurd ⟨rfl, _, ?_, tried⟩ free⟩
        · rintro ⟨_, _, ⟨⟩⟩
        · exact fun refusal => Fault.noConfusion

namespace Host

variable {h : Host} {path : String}

theorem noRefusal_checkPath (path : String) : Fails NoRefusal (checkPath path) :=
  fails_checkPath_of (by simp [NoRefusal]) (by simp [NoRefusal]) path

section Changes

variable {f : FileSystem → Place → Except Errno FileSystem}

theorem change_untaken {fault : Fault} (refused : checkPath path = .error fault) :
    (change path f).result h = (.error fault, h) := by
  rw [change, Action.result_of, refused]

theorem change_refused {errno : Errno} (taken : checkPath path = .ok ()) (refused : f h.files h.cwd = .error errno) :
    (change path f).result h = (.error (.system ⟨errno, path⟩), h) := by
  rw [change, Action.result_of, taken, refused]

theorem change_done {files : FileSystem} (taken : checkPath path = .ok ()) (done : f h.files h.cwd = .ok files) :
    (change path f).result h = (.ok (), { h with files }) := by
  rw [change, Action.result_of, taken, done]

/-- A change of the files stops only at a path that the system does not take. -/
theorem stops_change_iff : Stops (change path f) h ↔ ∃ fault, checkPath path = .error fault := by
  cases taken : checkPath path with
  | error fault =>
    have other := noRefusal_checkPath path fault taken
    exact ⟨fun _ => ⟨fault, rfl⟩, fun _ => ⟨fault, other, congrArg Prod.fst (change_untaken taken)⟩⟩
  | ok allowed =>
    refine ⟨?_, by simp⟩
    rintro ⟨fault, other, stopped⟩
    cases changed : f h.files h.cwd with
    | ok files =>
      rw [change_done taken changed] at stopped
      cases stopped
    | error errno =>
      rw [change_refused taken changed] at stopped
      cases stopped
      exact absurd rfl (other _)

end Changes

/-- A text is not written to a path that the system does not take; and one without bytes stops after the file was
emptied. -/
theorem stops_writeText_iff {text : String} : Stops (writeText path text) h ↔ (∃ fault, checkPath path = .error fault) ∨
    (∃ fault, Text.encode text = .error fault) ∧ ∃ files, h.files.write h.cwd path ByteArray.empty = .ok files := by
  rw [writeText]
  cases encoded : Text.encode text with
  | ok bytes => simp [stops_change_iff]
  | error fault =>
    dsimp only
    cases taken : checkPath path with
    | error refused =>
      refine ⟨fun _ => .inl ⟨refused, rfl⟩, fun _ => ⟨refused, noRefusal_checkPath path refused taken, ?_⟩⟩
      exact congrArg Prod.fst (Action.result_bind_of_error (change_untaken taken))
    | ok allowed =>
      cases put : h.files.write h.cwd path ByteArray.empty with
      | error errno =>
        refine ⟨?_, by simp⟩
        rintro ⟨stopped, other, same⟩
        rw [Action.result_bind_of_error (change_refused taken put)] at same
        cases same
        exact absurd rfl (other _)
      | ok files =>
        refine ⟨fun _ => .inr ⟨⟨fault, rfl⟩, files, rfl⟩, fun _ => ⟨.encoding fault, fun _ => Fault.noConfusion, ?_⟩⟩
        exact congrArg Prod.fst (Action.result_bind_of_ok (change_done taken put))

/-- What stands at a path is at one that the system takes. -/
theorem checkPath_of_standing {follow : Bool} {entry : Entry} (stands : h.standing follow path = .ok (some entry)) :
    checkPath path = .ok () := by
  rw [standing] at stands
  split at stands
  · cases stands
  · next allowed _ => exact allowed
  all_goals cases stands

theorem ask_of_standing {follow : Bool} {found : Option Entry} (seen : h.standing follow path = .ok found)
    (p : Entry → Bool) : (ask path follow p).result h = (.ok (found.any p), h) := by
  rw [ask_result, seen]
  rfl

theorem ask_of_unanswered {follow : Bool} {fault : Fault} (unanswered : h.standing follow path = .error fault)
    (p : Entry → Bool) : (ask path follow p).result h = (.error fault, h) := by
  rw [ask_result, unanswered]
  rfl

theorem Finds.readText_error {place : Place} {bytes : ByteArray} {mode : Nat} {fault : Text.Utf8Fault}
    (finds : h.Finds .target path place (.file bytes mode)) (garbled : Text.decode bytes = .error fault) :
    (Host.readText path).result h = (.error (.decoding fault), h) := by
  have read : (readBytes path).result h = (.ok bytes, h) := by
    rw [readBytes, consult, Action.result_of, finds.taken]
    simp only [FileSystem.read, finds.stat]
  rw [Host.readText, Action.result_bind_of_ok read, garbled]
  rfl

end Host

namespace ResourceType.File

variable {r : Resource} {h : Host} {path : String}

/-! ## The steps of a file -/

theorem completes_takeAway {found itself : Option Entry} (taken : Host.checkPath path = .ok ())
    (seen : h.standing true path = .ok found) (looked : h.standing false path = .ok itself) (noop : Bool) :
    Completes (takeAway path noop) h := by
  have removed (directory : Bool) : Completes (change "ensure" "absent" "removed"
      (if directory = true then Host.removeDirectory path else Host.unlink path) noop) h := by
    refine completes_change_iff.mpr fun ⟨_, stops⟩ => ?_
    have refused : ∃ fault, Host.checkPath path = .error fault := by
      split at stops
      · exact Host.stops_change_iff.mp stops
      · exact Host.stops_change_iff.mp stops
    simp [taken] at refused
  refine (Completes.bind_iff (Host.ask_of_standing seen _)).mpr ?_
  split
  · refine (Completes.bind_iff (Host.ask_of_standing looked _)).mpr ?_
    exact removed _
  · exact removed _

theorem completes_remove_iff {noop : Bool} : Completes (remove path noop) h ↔
    (∃ itself, h.standing false path = .ok itself) ∧ ∃ found, h.standing true path = .ok found := by
  rw [remove_eq]
  cases looked : h.standing false path with
  | error fault => exact ⟨fun done => absurd done (Completes.not_bind (Host.ask_of_unanswered looked _)), by simp⟩
  | ok itself =>
    refine (Completes.bind_iff (Host.ask_of_standing looked _)).trans ?_
    cases seen : h.standing true path with
    | error fault =>
      have asked (p : Entry → Bool) := Host.ask_of_unanswered seen p
      refine ⟨fun done => ?_, by simp⟩
      split at done
      · exact absurd done (Completes.not_bind (asked _))
      · exact absurd done (Completes.not_bind (asked _))
    | ok found =>
      refine ⟨fun _ => ⟨⟨itself, rfl⟩, found, rfl⟩, fun _ => ?_⟩
      split
      · next link =>
        obtain ⟨entry, rfl, -⟩ := (Option.any_eq_true _ _).mp link
        exact completes_takeAway (Host.checkPath_of_standing looked) seen looked noop
      · refine (Completes.bind_iff (Host.ask_of_standing seen _)).mpr ?_
        split
        · next there =>
          obtain ⟨entry, rfl, -⟩ := (Option.any_eq_true _ _).mp there
          exact completes_takeAway (Host.checkPath_of_standing seen) seen looked noop
        · exact .pure _ _

/-- The path is one that the system does not take. -/
def Unusable (path : String) : Prop := ∃ fault, Host.checkPath path = .error fault

theorem not_unusable {follow : Bool} {entry : Entry} (stands : h.standing follow path = .ok (some entry)) :
    ¬ Unusable path := by
  rintro ⟨fault, refused⟩
  rw [Host.checkPath_of_standing stands] at refused
  cases refused

theorem completes_create_iff {noop : Bool} : Completes (create path noop) h ↔
    (∃ found, h.standing true path = .ok found) ∧ ¬ (noop = false ∧ Unusable path) := by
  cases seen : h.standing true path with
  | error fault => exact ⟨fun done => absurd done (Completes.not_bind (Host.ask_of_unanswered seen _)), by simp⟩
  | ok found =>
    refine (Completes.bind_iff (Host.ask_of_standing seen _)).trans ?_
    split
    · next there =>
      obtain ⟨entry, rfl, -⟩ := (Option.any_eq_true _ _).mp there
      simp [Completes.pure, not_unusable seen]
    · rw [completes_change_iff, Host.makeDirectory, Host.stops_change_iff]
      simp [Unusable]

/-- A content without bytes is asked for where nothing stands, and a file can be made there. -/
def Unwritable (r : Resource) (h : Host) (path : String) : Prop :=
  h.standing true path = .ok none ∧ (∃ files, h.files.write h.cwd path ByteArray.empty = .ok files) ∧
    ∃ s fault, contentOf r = some (.text s) ∧ Text.encode s = .error fault

/-- A content is asked for of a file whose bytes are no text, or a content without bytes of one with another. -/
def Unreadable (r : Resource) (h : Host) (path : String) : Prop :=
  ∃ s bytes mode, contentOf r = some (.text s) ∧ h.standing true path = .ok (some (.file bytes mode)) ∧
    ((∃ fault, Text.decode bytes = .error fault) ∨
      ∃ raw fault, Text.decode bytes = .ok raw ∧ Text.unifyNewlines raw ≠ s ∧ Text.encode s = .error fault)

theorem stops_writeValue_iff (texts : ∀ v, contentOf r = some v → ∃ s, v = .text s)
    (nothing : h.standing true path = .ok none) :
    Stops (writeValue path ((contentOf r).getD .null)) h ↔ Unusable path ∨ Unwritable r h path := by
  cases given : contentOf r with
  | none =>
    have empty : Text.encode "" = .ok ByteArray.empty := rfl
    refine (Host.stops_writeText_iff : Stops (Host.writeText path "") h ↔ _).trans ?_
    simp [Unusable, Unwritable, given, empty]
  | some v =>
    obtain ⟨s, rfl⟩ := texts v given
    refine (Host.stops_writeText_iff : Stops (Host.writeText path s) h ↔ _).trans ?_
    simp [Unusable, Unwritable, given, nothing, and_comm]

theorem completes_adjust_iff {place : Place} {bytes : ByteArray} {mode : Nat} {s : String} {noop : Bool}
    (finds : h.Finds .target path place (.file bytes mode)) (given : contentOf r = some (.text s)) :
    Completes (adjust path (.text s) noop) h ↔ ¬ Unreadable r h path := by
  have unreadable : Unreadable r h path ↔ (∃ fault, Text.decode bytes = .error fault) ∨
      ∃ raw fault, Text.decode bytes = .ok raw ∧ Text.unifyNewlines raw ≠ s ∧ Text.encode s = .error fault := by
    simp [Unreadable, given, finds.standing]
  rw [unreadable]
  cases decoded : Text.decode bytes with
  | error fault =>
    exact ⟨fun done => absurd done (Completes.not_bind (finds.readText_error decoded)),
      fun free => absurd (.inl ⟨fault, rfl⟩) free⟩
  | ok raw =>
    refine (Completes.bind_iff (finds.readText decoded)).trans ?_
    dsimp only
    split
    · next same => simp [Completes.pure, same]
    · next differs =>
      rw [replaceContent]
      cases encoded : Text.encode s with
      | error fault =>
        refine ⟨fun done => absurd done (Completes.not_bind (Action.result_ofExcept _ _)), fun free => ?_⟩
        exact absurd (.inr ⟨raw, fault, rfl, differs, rfl⟩) free
      | ok bytes =>
        refine (Completes.bind_iff (Action.result_ofExcept _ _)).trans ?_
        rw [completes_change_iff, Host.stops_writeText_iff, encoded, finds.taken]
        simp

theorem completes_place_iff {name : String} (absolute : Path.isAbsolute name = true)
    (texts : ∀ v, contentOf r = some v → ∃ s, v = .text s) {noop : Bool} :
    Completes (place (Path.normal name) r noop) h ↔ (∃ found, h.standing true (Path.normal name) = .ok found) ∧
      ¬ (noop = false ∧ (Unusable (Path.normal name) ∨ Unwritable r h (Path.normal name))) ∧
      ¬ Unreadable r h (Path.normal name) := by
  cases seen : h.standing true (Path.normal name) with
  | error fault => exact ⟨fun done => absurd done (Completes.not_bind (Host.ask_of_unanswered seen _)), by simp⟩
  | ok found =>
    refine (Completes.bind_iff (Host.ask_of_standing seen _)).trans ?_
    cases found with
    | none =>
      have readable : ¬ Unreadable r h (Path.normal name) := by simp [Unreadable, seen]
      rw [if_neg (by simp)]
      refine (Completes.bind_iff (Host.ask_of_standing seen _)).trans ?_
      rw [if_pos (by simp), Completes.map_iff, completes_change_iff, stops_writeValue_iff texts seen]
      simp [readable]
    | some entry =>
      have usable := not_unusable seen
      have writable : ¬ Unwritable r h (Path.normal name) := by simp [Unwritable, seen]
      obtain ⟨place, finds⟩ := Host.standing_eq_some seen
      cases entry with
      | directory mode =>
        have readable : ¬ Unreadable r h (Path.normal name) := by simp [Unreadable, seen]
        rw [if_pos (by simp)]
        split <;> simp [Completes.pure, usable, writable, readable]
      | link target =>
        exact absurd finds.led (FileSystem.not_link_of_resolve (Path.isAbsolute_normal absolute) place target)
      | file bytes mode =>
        rw [if_neg (by simp)]
        refine (Completes.bind_iff (Host.ask_of_standing seen _)).trans ?_
        rw [if_neg (by simp)]
        split
        · next none =>
          have readable : ¬ Unreadable r h (Path.normal name) := by simp [Unreadable, none]
          simp [Completes.pure, usable, writable, readable]
        · next v given =>
          obtain ⟨s, rfl⟩ := texts v given
          rw [Completes.map_iff, completes_adjust_iff finds given]
          simp [usable, writable]

/-- Where the question about a path has an answer, the step of the permission bits completes. -/
theorem completes_setMode (valid : ∃ mode, modeOf r = .ok mode) (answered : ∃ found, h.standing true path = .ok found)
    (noop : Bool) : Completes (setMode path r noop) h := by
  obtain ⟨wanted, given⟩ := valid
  obtain ⟨found, seen⟩ := answered
  have read : (Action.ofExcept (modeOf r) : Action Host (Option Nat)).result h = (.ok wanted, h) := by
    rw [Action.result_ofExcept, given]
  refine (Completes.bind_iff read).mpr ?_
  split
  · exact .pure _ _
  · refine (Completes.bind_iff (Host.ask_of_standing seen _)).mpr ?_
    split
    · next there =>
      obtain ⟨entry, rfl, -⟩ := (Option.any_eq_true _ _).mp there
      obtain ⟨place, finds⟩ := Host.standing_eq_some seen
      refine (Completes.bind_iff finds.mode).mpr ?_
      split
      · exact .pure _ _
      · refine completes_change_iff.mpr fun made => not_unusable seen ?_
        exact Host.stops_change_iff.mp made.2
    · exact .pure _ _

/-- The question about a path has an answer if it had one. -/
def KeepsAnswer (path : String) (h h' : Host) : Prop :=
  (∃ found, h.standing true path = .ok found) → ∃ found, h'.standing true path = .ok found

instance (path : String) : Std.Refl (KeepsAnswer path) := ⟨fun _ => id⟩

theorem keepsAnswer_writeText {h' : Host} (text : String)
    (written : (Host.writeText path text).result h = (.ok (), h')) : KeepsAnswer path h h' := by
  obtain ⟨bytes, place, mode, -, finds⟩ := Host.writeText_ok written
  exact fun _ => ⟨_, finds.target.standing⟩

theorem keepsAnswer_makeDirectory {name : String} (absolute : Path.isAbsolute name = true) {h' : Host}
    (made : (Host.makeDirectory (Path.normal name)).result h = (.ok (), h')) : KeepsAnswer (Path.normal name) h h' := by
  obtain ⟨place, mode, finds⟩ := Host.makeDirectory_ok absolute made
  exact fun _ => ⟨_, finds.standing⟩

theorem keepsAnswer_create {name : String} (absolute : Path.isAbsolute name = true) {noop : Bool} {h' : Host}
    {events : List Event} (run : (create (Path.normal name) noop).result h = (.ok events, h')) :
    KeepsAnswer (Path.normal name) h h' := by
  cases noop with
  | true => exact (looks_create _).same run ▸ Std.Refl.refl h
  | false => exact (settles_create (fun _ => keepsAnswer_makeDirectory absolute) run).related

theorem keepsAnswer_place {noop : Bool} {h' : Host} {placed : Option (List Event)}
    (run : (place path r noop).result h = (.ok placed, h')) : KeepsAnswer path h h' := by
  cases noop with
  | true => exact (looks_place _ r).same run ▸ Std.Refl.refl h
  | false => exact (settles_place (fun text _ => keepsAnswer_writeText text) run).related

/-! ## What hinders a resource -/

/-- What keeps a file resource from being brought about, or from failing to be with an event. -/
inductive Hindered (r : Resource) (noop : Bool) (h : Host) : Prop
  /-- The system refuses to say what stands at the path. -/
  | unanswered {fault : Fault} (refused : h.standing true (Path.normal r.ref.name) = .error fault)
  /-- The system refuses to say whether a link stands at the path that is to be removed. -/
  | unseen {fault : Fault} (ensure : ensureWord? r = some "absent")
      (refused : h.standing false (Path.normal r.ref.name) = .error fault)
  | unusable (ensure : ensureWord? r ≠ some "absent") (earnest : noop = false)
      (unusable : Unusable (Path.normal r.ref.name))
  | unwritable (ensure : ensureWord? r = some "file" ∨ ensureWord? r = some "present") (earnest : noop = false)
      (unwritable : Unwritable r h (Path.normal r.ref.name))
  | unreadable (ensure : ensureWord? r = some "file" ∨ ensureWord? r = some "present")
      (unreadable : Unreadable r h (Path.normal r.ref.name))

/-- What follows a step after which the question about the path has an answer completes. -/
theorem completes_moded (valid : ∃ mode, modeOf r = .ok mode) {noop : Bool} {events : List Event}
    (answered : ∃ found, h.standing true path = .ok found) :
    Completes (do return events ++ (← setMode path r noop)) h :=
  Completes.map_iff.mpr (completes_setMode valid answered noop)

theorem answered_iff {follow : Bool} : (∃ found, h.standing follow path = .ok found) ↔
    ¬ ∃ fault, h.standing follow path = .error fault := by
  cases h.standing follow path <;> simp

theorem completes_apply_absent (ensure : ensureWord? r = some "absent") {noop : Bool} :
    Completes (apply r noop) h ↔ ¬ Hindered r noop h := by
  have hindered : Hindered r noop h ↔ (∃ fault, h.standing false (Path.normal r.ref.name) = .error fault) ∨
      ∃ fault, h.standing true (Path.normal r.ref.name) = .error fault := by
    constructor
    · rintro (⟨refused⟩ | ⟨-, refused⟩ | ⟨other⟩ | ⟨other | other⟩ | ⟨other | other⟩)
      · exact .inr ⟨_, refused⟩
      · exact .inl ⟨_, refused⟩
      · exact absurd ensure other
      all_goals simp [ensure] at other
    · rintro (⟨fault, refused⟩ | ⟨fault, refused⟩)
      · exact .unseen ensure refused
      · exact .unanswered refused
  rw [apply_of_absent ensure, completes_remove_iff, hindered, answered_iff, answered_iff, not_or]

theorem completes_apply_directory (valid : ValidFile r) (ensure : ensureWord? r = some "directory") {noop : Bool} :
    Completes (apply r noop) h ↔ ¬ Hindered r noop h := by
  have hindered : Hindered r noop h ↔ (∃ fault, h.standing true (Path.normal r.ref.name) = .error fault) ∨
      noop = false ∧ Unusable (Path.normal r.ref.name) := by
    constructor
    · rintro (⟨refused⟩ | ⟨other⟩ | ⟨-, earnest, unusable⟩ | ⟨other | other⟩ | ⟨other | other⟩)
      · exact .inl ⟨_, refused⟩
      · simp [ensure] at other
      · exact .inr ⟨earnest, unusable⟩
      all_goals simp [ensure] at other
    · rintro (⟨fault, refused⟩ | ⟨earnest, unusable⟩)
      · exact .unanswered refused
      · exact .unusable (by simp [ensure]) earnest unusable
  have creates : apply r noop = (do
      let events ← create (Path.normal r.ref.name) noop
      return events ++ (← setMode (Path.normal r.ref.name) r noop)) := by
    rw [apply, ensure]
    rfl
  rw [hindered, not_or, ← answered_iff, ← completes_create_iff, creates]
  refine Completes.bind_iff_of fun events mid created => completes_moded valid.mode ?_
  exact keepsAnswer_create valid.absolute created (completes_create_iff.mp ⟨events, mid, created⟩).1

theorem completes_apply_file (valid : ValidFile r)
    (ensure : ensureWord? r = some "file" ∨ ensureWord? r = some "present") {noop : Bool} :
    Completes (apply r noop) h ↔ ¬ Hindered r noop h := by
  have hindered : Hindered r noop h ↔ (∃ fault, h.standing true (Path.normal r.ref.name) = .error fault) ∨
      noop = false ∧ (Unusable (Path.normal r.ref.name) ∨ Unwritable r h (Path.normal r.ref.name)) ∨
      Unreadable r h (Path.normal r.ref.name) := by
    constructor
    · rintro (⟨refused⟩ | ⟨other⟩ | ⟨-, earnest, unusable⟩ | ⟨-, earnest, unwritable⟩ | ⟨-, unreadable⟩)
      · exact .inl ⟨_, refused⟩
      · rcases ensure with word | word <;> simp [word] at other
      · exact .inr (.inl ⟨earnest, .inl unusable⟩)
      · exact .inr (.inl ⟨earnest, .inr unwritable⟩)
      · exact .inr (.inr unreadable)
    · rintro (⟨fault, refused⟩ | ⟨earnest, unusable | unwritable⟩ | unreadable)
      · exact .unanswered refused
      · exact .unusable (by rcases ensure with word | word <;> simp [word]) earnest unusable
      · exact .unwritable ensure earnest unwritable
      · exact .unreadable ensure unreadable
  unfold apply
  dsimp only
  split
  · next word => simp [word] at ensure
  · next word => simp [word] at ensure
  · rw [hindered, not_or, not_or, ← answered_iff, ← completes_place_iff valid.absolute valid.texts]
    refine Completes.bind_iff_of fun placed mid placing => ?_
    have answered := keepsAnswer_place placing
      ((completes_place_iff valid.absolute valid.texts).mp ⟨placed, mid, placing⟩).1
    cases placed with
    | none => exact .pure _ _
    | some events => exact completes_moded valid.mode answered

theorem completes_apply_iff (valid : ValidFile r) {noop : Bool} : Completes (apply r noop) h ↔ ¬ Hindered r noop h := by
  rcases valid.ensure with present | file | absent | directory
  · exact completes_apply_file valid (.inr present)
  · exact completes_apply_file valid (.inl file)
  · exact completes_apply_absent absent
  · exact completes_apply_directory valid directory

end ResourceType.File

namespace ResourceType

variable {r : Resource} {h : Host}

namespace Exec

/-- What keeps a command resource from being brought about, or from failing to be with an event. -/
inductive Hindered (r : Resource) (noop : Bool) (h : Host) : Prop
  /-- The system refuses to say what stands at the path that the command creates. -/
  | unanswered {fault : Fault} (refused : createdAt r h = .error fault)
  /-- The guard or the command is none, or prints no text, or one of the statuses to be told has too many digits. -/
  | untold {accepted : List Int} (needed : createdAt r h = .ok none) (returns : returnsOf r = .ok accepted)
      (untold : (course r noop h).1.Untold accepted)

theorem completes_apply_iff (valid : ValidExec r) {noop : Bool} : Completes (apply r noop) h ↔ ¬ Hindered r noop h := by
  have applied := apply_result valid noop h
  cases seen : createdAt r h with
  | error fault =>
    rw [seen] at applied
    refine ⟨fun done => ?_, fun free => absurd (.unanswered seen) free⟩
    obtain ⟨_, _, done⟩ := done
    rw [applied] at done
    cases done
  | ok found =>
    rw [seen] at applied
    cases found with
    | some entry =>
      refine ⟨fun _ => ?_, fun _ => ⟨[], h, applied⟩⟩
      rintro (⟨refused⟩ | ⟨needed⟩)
      · simp [seen] at refused
      · simp [seen] at needed
    | none =>
      obtain ⟨accepted, returns⟩ := valid.returns
      obtain ⟨after, told⟩ := tell_ok_iff returns (course r noop h).1 (course r noop h).2
      have hindered : Hindered r noop h ↔ (course r noop h).1.Untold accepted := by
        refine ⟨?_, .untold seen returns⟩
        rintro (⟨refused⟩ | ⟨-, same, untold⟩)
        · simp [seen] at refused
        · rw [returns, Except.ok.injEq] at same
          exact same ▸ untold
      obtain ⟨line, command⟩ := valid.command
      rw [hindered, ← told_iff command, Completes, applied]
      constructor
      · rintro ⟨events, h', done⟩
        exact ⟨events, ((told events h').mp done).1⟩
      · rintro ⟨events, tells⟩
        exact ⟨events, after, (told events after).mpr ⟨tells, rfl⟩⟩

end Exec

def messageOf (r : Resource) : Value := (r.param? "message").getD (.text r.ref.name)

/-- What keeps a notice from being given. -/
inductive Unnoticed (r : Resource) (noop : Bool) (h : Host) : Prop
  /-- The message is shown with a number of too many digits. -/
  | unshown (unshown : ¬ (messageOf r).IsShown)
  /-- The notice is printed, and the console does not take it. -/
  | untaken (earnest : noop = false) {message : String} (shown : (messageOf r).shown = .ok message) {fault : Fault}
      (untaken : Console.takes h.console.asBytes ("Notice: " ++ message) = .error fault)

theorem completes_applyNotify_iff {noop : Bool} : Completes (applyNotify r noop) h ↔ ¬ Unnoticed r noop h := by
  cases shown : (messageOf r).shown with
  | error fault =>
    have failed : (Action.ofExcept (messageOf r).shown : Action Host String).result h = (.error fault, h) := by
      rw [Action.result_ofExcept, shown]
    have unshown : ¬ (messageOf r).IsShown := by simp [Value.isShown_iff, shown]
    exact iff_of_false (Completes.not_bind failed) (not_not_intro (.unshown unshown))
  | ok message =>
    have read : (Action.ofExcept (messageOf r).shown : Action Host String).result h = (.ok message, h) := by
      rw [Action.result_ofExcept, shown]
    have hindered : Unnoticed r noop h ↔ noop = false ∧
        ∃ fault, Console.takes h.console.asBytes ("Notice: " ++ message) = .error fault := by
      constructor
      · rintro (⟨unshown⟩ | ⟨earnest, same, untaken⟩)
        · exact absurd (Value.isShown_iff.mpr ⟨message, shown⟩) unshown
        · rw [shown, Except.ok.injEq] at same
          exact ⟨earnest, _, same ▸ untaken⟩
      · rintro ⟨earnest, fault, untaken⟩
        exact .untaken earnest shown untaken
    rw [hindered]
    refine (Completes.bind_iff read).trans ?_
    cases noop with
    | true => exact iff_of_true (.pure _ _) (by simp)
    | false =>
      have printed := Action.result_print ("Notice: " ++ message) h
      simp only [true_and]
      cases taken : Console.takes (Hosted.host h).console.asBytes ("Notice: " ++ message) with
      | ok done =>
        rw [taken] at printed
        refine iff_of_true ((Completes.bind_iff printed).mpr (.pure _ _)) ?_
        rintro ⟨fault, ⟨⟩⟩
      | error fault =>
        rw [taken] at printed
        exact iff_of_false (Completes.not_bind printed) (not_not_intro ⟨fault, rfl⟩)

/-- What keeps a resource of a type from being brought about, or from failing to be with an event. -/
def Hindered (t : ResourceType) (r : Resource) (noop : Bool) (h : Host) : Prop :=
  match t with
  | file => File.Hindered r noop h
  | exec => Exec.Hindered r noop h
  | notify => Unnoticed r noop h
  | stage | classes | schedule | filebucket => False

/-- Bringing about a valid resource returns events, unless it is hindered. -/
theorem apply_returns_iff {t : ResourceType} (valid : t.validate r = .ok ()) (noop : Bool) :
    (∃ events h', (t.apply r noop).result h = (.ok events, h')) ↔ ¬ t.Hindered r noop h := by
  cases t with
  | file => exact File.completes_apply_iff (File.validFile valid)
  | exec => exact Exec.completes_apply_iff (Exec.validExec valid)
  | notify => exact completes_applyNotify_iff
  | stage | classes | schedule | filebucket => exact ⟨fun _ => id, fun _ => ⟨[], h, rfl⟩⟩

/-- Where the directory of a file is not there, that is told as a failure. -/
theorem apply_returns_iff_homelessFile : file.validate File.homelessFile = .ok () ∧
    ¬ file.Hindered File.homelessFile false Transaction.emptyRoot ∧
    ∃ e h', (file.apply File.homelessFile false).result Transaction.emptyRoot = (.ok [e], h') ∧
      e.outcome = .failure := by
  have valid : file.validate File.homelessFile = .ok () := eq_ok_of_toOption (by decide +kernel)
  have run : (file.apply File.homelessFile false).result Transaction.emptyRoot = (.ok _, _) :=
    Prod.ext (eq_ok_of_toOption (a := [.refused "ensure" "file" Errno.noEntry.text]) (by decide +kernel)) rfl
  exact ⟨valid, (apply_returns_iff valid false).mp ⟨_, _, run⟩, _, _, run, rfl⟩

/-- A file whose bytes are no text stops a resource that is to give it a content. -/
theorem apply_garbled {place : Place} {bytes : ByteArray} {mode : Nat} {s : String} {fault : Text.Utf8Fault}
    (ensure : ensureWord? r = some "file" ∨ ensureWord? r = some "present") (given : contentOf r = some (.text s))
    (finds : h.Finds .target (Path.normal r.ref.name) place (.file bytes mode))
    (garbled : Text.decode bytes = .error fault) (noop : Bool) :
    (file.apply r noop).result h = (.error (.decoding fault), h) := by
  have adjusting : (File.adjust (Path.normal r.ref.name) (.text s) noop).result h = (.error (.decoding fault), h) :=
    Action.result_bind_of_error (finds.readText_error garbled)
  have placing : (File.place (Path.normal r.ref.name) r noop).result h = (.error (.decoding fault), h) := by
    rw [File.place, Action.result_bind_of_ok finds.isDirectory, if_neg (by simp [Entry.isDirectory]),
      Action.result_bind_of_ok finds.exists_, if_neg (by simp), given]
    exact Action.result_bind_of_error adjusting
  change (File.apply r noop).result h = _
  unfold File.apply
  dsimp only
  split
  · next word => simp [word] at ensure
  · next word => simp [word] at ensure
  · exact Action.result_bind_of_error placing

/-- A host with a file of one byte that is no text. -/
def garbled : Host :=
  { Host.bare with files := ⟨[([], .directory 0o755), (["f"], .file ⟨#[0xFF]⟩ 0o644)], 0o022⟩ }

def letteredFile : Resource := ⟨{ type := "file", name := "/f" }, Table.ofList [("content", .text "a")]⟩

/-- No event tells that the bytes of the file are no text: this fault stops the resource. -/
theorem apply_letteredFile : file.validate letteredFile = .ok () ∧
    ∃ fault, ((file.apply letteredFile false).result garbled).1 = .error (.decoding fault) := by
  have none : (Text.decode ⟨#[0xFF]⟩).toOption = none := by decide +kernel
  have finds : garbled.Finds .target (Path.normal "/f") ["f"] (.file ⟨#[0xFF]⟩ 0o644) :=
    ⟨eq_ok_of_toOption (by decide +kernel), rfl⟩
  refine ⟨eq_ok_of_toOption (by decide +kernel), ?_⟩
  cases decoded : Text.decode ⟨#[0xFF]⟩ with
  | ok text =>
    rw [decoded] at none
    cases none
  | error fault => exact ⟨fault, congrArg Prod.fst (apply_garbled (.inr rfl) rfl finds decoded false)⟩

end ResourceType

end Converge
