import Converge.Proofs.Actions
import Converge.Proofs.Walks
import Converge.ResourceType.Change

/-!
# What stands at paths

A question about a path is answered by what stands there (`standing`, `ask_result`). Each operation on files that
succeeds leaves something known at its path: the text that was written (`writeText_ok`), a directory
(`makeDirectory_ok`), nothing (`unlink_ok`, `removeDirectory_ok`), or the same with other permission bits
(`changeMode_ok`).
-/

namespace Converge

/-! ## Steps that succeed -/

namespace Action

variable {σ α β : Type}

theorem result_bind_eq_ok {a : Action σ α} {f : α → Action σ β} {s t : σ} {y : β} :
    (a >>= f).result s = (.ok y, t) ↔ ∃ x mid, a.result s = (.ok x, mid) ∧ (f x).result mid = (.ok y, t) := by
  rw [result_bind]
  cases a.result s with
  | mk outcome after => cases outcome <;> simp [and_assoc]

theorem result_pure_eq_ok {x y : α} {s t : σ} : (Pure.pure x : Action σ α).result s = (.ok y, t) ↔ x = y ∧ s = t := by
  simp

end Action

/-- No event is a failure. -/
def Clean (events : List Event) : Prop := ∀ e ∈ events, e.outcome ≠ .failure

theorem Clean.of_append {first second : List Event} (clean : Clean (first ++ second)) : Clean first ∧ Clean second :=
  ⟨fun e member => clean e (List.mem_append_left _ member), fun e member => clean e (List.mem_append_right _ member)⟩

/-- A change without a failure was made. -/
theorem change_ok {property should message : String} {action : Action Host Unit} {h h' : Host} {events : List Event}
    (run : (change property should message action false).result h = (.ok events, h')) (clean : Clean events) :
    action.result h = (.ok (), h') ∧ events = [⟨property, .success, message⟩] := by
  obtain ⟨outcome, mid, tried, run⟩ := Action.result_bind_eq_ok.mp run
  rw [Action.result_attempt, Prod.mk.injEq] at tried
  obtain ⟨ended, rfl⟩ := tried
  cases ended
  split at run
  · next ended =>
    obtain ⟨rfl, rfl⟩ := Action.result_pure_eq_ok.mp run
    exact ⟨Prod.ext ended rfl, rfl⟩
  · obtain ⟨rfl, rfl⟩ := Action.result_pure_eq_ok.mp run
    exact absurd rfl (clean _ List.mem_cons_self)
  · cases run

theorem change_of_ok {property should message : String} {action : Action Host Unit} {h h' : Host}
    (done : action.result h = (.ok (), h')) :
    (change property should message action false).result h = (.ok [⟨property, .success, message⟩], h') := by
  rw [change, if_neg (by simp), Action.result_bind_of_ok (Action.result_attempt _ _), done]
  rfl

theorem change_of_refused {property should message : String} {action : Action Host Unit} {h h' : Host}
    {refusal : SystemFault} (refused : action.result h = (.error (.system refusal), h')) :
    (change property should message action false).result h = (.ok [.refused property should refusal.errno.text], h') := by
  rw [change, if_neg (by simp), Action.result_bind_of_ok (Action.result_attempt _ _), refused]
  rfl

/-! ## Texts of files -/

namespace Text

/-- A text comes back from the bytes that were written for it. -/
theorem decode_of_encode {s : String} {bytes : ByteArray} (encoded : encode s = .ok bytes) : decode bytes = .ok s := by
  rw [encode] at encoded
  split at encoded
  · cases encoded
    exact decode_toUTF8 s
  · cases encoded

theorem not_mem_unifyChars (l : List Char) : '\r' ∉ unifyChars l := by
  fun_induction unifyChars l <;> simp_all [eq_comm]

theorem unifyChars_of_plain {l : List Char} (plain : '\r' ∉ l) : unifyChars l = l := by
  fun_induction unifyChars l <;> simp_all

theorem unifyNewlines_of_plain {s : String} (plain : '\r' ∉ s.toList) : unifyNewlines s = s := by
  rw [unifyNewlines, unifyChars_of_plain plain, String.ofList_toList]

theorem plain_unifyNewlines (s : String) : '\r' ∉ (unifyNewlines s).toList := by
  rw [unifyNewlines, String.toList_ofList]
  exact not_mem_unifyChars _

end Text

/-! ## What stands at a path -/

namespace Host

variable {h h' : Host} {path : String} {follow : Bool}

/-- What the system says stands at a path: an entry, or nothing, also where the way there does not exist. -/
def standing (h : Host) (follow : Bool) (path : String) : Except Fault (Option Entry) :=
  match checkPath path, h.files.stat h.cwd follow path with
  | .error _, _ => .ok none
  | .ok (), .ok (_, entry) => .ok (some entry)
  | .ok (), .error .noEntry | .ok (), .error .notDirectory | .ok (), .error .loop => .ok none
  | .ok (), .error errno => .error (.system ⟨errno, path⟩)

theorem ask_result (p : Entry → Bool) :
    (ask path follow p).result h = ((h.standing follow path).map (Option.any p), h) := by
  rw [ask, standing, Action.result_of]
  cases checkPath path with
  | error fault => rfl
  | ok allowed =>
    cases h.files.stat h.cwd follow path with
    | ok found => rfl
    | error errno => cases errno <;> rfl

theorem ask_ok {p : Entry → Bool} {b : Bool} (asked : (ask path follow p).result h = (.ok b, h')) :
    h = h' ∧ ∃ found, h.standing follow path = .ok found ∧ found.any p = b := by
  rw [ask_result, Prod.mk.injEq, map_ok_iff] at asked
  exact ⟨asked.2, asked.1⟩

/-- An entry that a path leads to, when it is walked for some purpose. -/
structure Finds (h : Host) (purpose : FileSystem.Purpose) (path : String) (place : Place) (entry : Entry) : Prop where
  taken : checkPath path = .ok ()
  led : h.files.resolve h.cwd purpose path = .ok (.taken place entry)

theorem Finds.stat {place : Place} {entry : Entry} (finds : h.Finds .target path place entry) :
    h.files.stat h.cwd true path = .ok (place, entry) := FileSystem.stat_eq_ok.mpr finds.led

theorem Finds.standing {place : Place} {entry : Entry} (finds : h.Finds .target path place entry) :
    h.standing true path = .ok (some entry) := by
  rw [Host.standing, finds.taken, finds.stat]

theorem Finds.standing_itself {place : Place} {entry : Entry} (finds : h.Finds .itself path place entry) :
    h.standing false path = .ok (some entry) := by
  have found : h.files.stat h.cwd false path = .ok (place, entry) := FileSystem.stat_eq_ok.mpr finds.led
  rw [Host.standing, finds.taken, found]

theorem standing_eq_some {entry : Entry} (stands : h.standing true path = .ok (some entry)) :
    ∃ place, h.Finds .target path place entry := by
  rw [Host.standing] at stands
  split at stands
  · cases stands
  · next place entry allowed found =>
    cases stands
    exact ⟨place, allowed, FileSystem.stat_eq_ok.mp found⟩
  all_goals cases stands

/-- The only reason for which the system does not say what stands at a path is too long a name on the way there. -/
theorem standing_eq_error_iff {fault : Fault} : h.standing follow path = .error fault ↔ checkPath path = .ok () ∧
    h.files.resolve h.cwd (if follow then .target else .itself) path = .error .nameTooLong ∧
    fault = .system ⟨.nameTooLong, path⟩ := by
  have other : (if follow then FileSystem.Purpose.target else .itself) ≠ .file := by cases follow <;> simp
  rw [standing, FileSystem.stat]
  cases checkPath path with
  | error untaken => simp
  | ok allowed =>
    cases led : h.files.resolve h.cwd (if follow then .target else .itself) path with
    | ok spot => cases spot <;> simp
    | error errno =>
      have stops := FileSystem.stopsWalk_of_resolve led
      cases errno with
      | nameTooLong => simp [eq_comm]
      | isDirectory => exact absurd stops other
      | noEntry | notDirectory | loop => simp
      | _ => cases stops

/-- Where there is neither a link nor anything that the path leads to there is nothing. -/
theorem standing_itself {itself : Option Entry} (seen : h.standing false path = .ok itself)
    (noLink : ∀ target, itself ≠ some (.link target)) : h.standing true path = .ok itself := by
  rw [← seen, standing, standing]
  cases allowed : checkPath path with
  | error fault => rfl
  | ok =>
    have same : h.files.stat h.cwd true path = h.files.stat h.cwd false path := by
      rw [FileSystem.stat, FileSystem.stat, if_pos rfl, if_neg (by simp)]
      rw [FileSystem.resolve_target_of_itself fun place target led => ?_]
      refine noLink target ?_
      rw [standing, allowed, FileSystem.stat_eq_ok.mpr led] at seen
      exact (Except.ok.inj seen).symm
    rw [same]

theorem change_ok {f : FileSystem → Place → Except Errno FileSystem} (done : (change path f).result h = (.ok (), h')) :
    checkPath path = .ok () ∧ ∃ files, f h.files h.cwd = .ok files ∧ h' = { h with files } := by
  rw [change, Action.result_of] at done
  split at done
  · cases done
  · next allowed changed =>
    cases done
    exact ⟨allowed, _, changed, rfl⟩
  · cases done

theorem consult_ok {α : Type} {f : FileSystem → Place → Except Errno α} {a : α}
    (said : (consult path f).result h = (.ok a, h')) : h = h' ∧ checkPath path = .ok () ∧ f h.files h.cwd = .ok a := by
  rw [consult, Action.result_of] at said
  split at said
  · cases said
  · next allowed told =>
    cases said
    exact ⟨rfl, allowed, told⟩
  · cases said

theorem Finds.exists_ {place : Place} {entry : Entry} (finds : h.Finds .target path place entry) :
    (Host.exists? path).result h = (.ok true, h) := by
  rw [exists?, ask_result, finds.standing]
  rfl

theorem Finds.isDirectory {place : Place} {entry : Entry} (finds : h.Finds .target path place entry) :
    (Host.isDirectory path).result h = (.ok entry.isDirectory, h) := by
  rw [Host.isDirectory, ask_result, finds.standing]
  cases entry <;> rfl

theorem Finds.mode {place : Place} {entry : Entry} (finds : h.Finds .target path place entry) :
    (Host.mode path).result h = (.ok entry.mode, h) := by
  rw [Host.mode, consult, Action.result_of, finds.taken, finds.stat]
  rfl

theorem readText_ok {text : String} (read : (readText path).result h = (.ok text, h')) :
    h = h' ∧ ∃ bytes mode raw, h.standing true path = .ok (some (.file bytes mode)) ∧
      Text.decode bytes = .ok raw ∧ Text.unifyNewlines raw = text := by
  obtain ⟨bytes, mid, said, read⟩ := Action.result_bind_eq_ok.mp read
  obtain ⟨rfl, allowed, told⟩ := consult_ok said
  split at read
  · next raw decoded =>
    obtain ⟨rfl, rfl⟩ := Action.result_pure_eq_ok.mp read
    refine ⟨rfl, bytes, ?_⟩
    rw [FileSystem.read] at told
    split at told
    · next found =>
      cases told
      exact ⟨_, raw, (Finds.mk allowed (FileSystem.stat_eq_ok.mp found)).standing, decoded, rfl⟩
    all_goals cases told
  · cases read

theorem Finds.readText {place : Place} {bytes : ByteArray} {mode : Nat} {raw : String}
    (finds : h.Finds .target path place (.file bytes mode)) (decoded : Text.decode bytes = .ok raw) :
    (Host.readText path).result h = (.ok (Text.unifyNewlines raw), h) := by
  have read : (readBytes path).result h = (.ok bytes, h) := by
    rw [readBytes, consult, Action.result_of, finds.taken]
    simp only [FileSystem.read, finds.stat]
  rw [Host.readText, Action.result_bind_of_ok read, decoded]
  rfl

/-- A text that was written is found, and in a place where it can be written again. -/
theorem writeText_ok {text : String} (written : (writeText path text).result h = (.ok (), h')) :
    ∃ bytes place mode, Text.encode text = .ok bytes ∧ h'.Finds .file path place (.file bytes mode) := by
  rw [writeText] at written
  split at written
  · next bytes encoded =>
    obtain ⟨allowed, files, put, rfl⟩ := change_ok written
    obtain ⟨place, mode, led⟩ := FileSystem.write_ok put
    exact ⟨bytes, place, mode, encoded, allowed, led⟩
  · obtain ⟨_, _, -, written⟩ := Action.result_bind_eq_ok.mp written
    cases written

theorem Finds.target {place : Place} {entry : Entry} (finds : h.Finds .file path place entry) :
    h.Finds .target path place entry :=
  ⟨finds.taken, FileSystem.resolve_target_of_file finds.led⟩

/-- Nothing is at a path, and it leads to nothing. -/
def Lacks (h : Host) (path : String) : Prop := ∀ follow, h.standing follow path = .ok none

theorem lacks_of_stat (allowed : checkPath path = .ok ())
    (gone : ∀ follow, h.files.stat h.cwd follow path = .error .noEntry) :
    h.Lacks path := fun follow => by rw [standing, allowed, gone]

theorem unlink_ok (done : (unlink path).result h = (.ok (), h')) : h'.Lacks path := by
  obtain ⟨allowed, files, unlinked, rfl⟩ := change_ok done
  exact lacks_of_stat allowed (FileSystem.unlink_ok unlinked)

variable {name : String} (absolute : Path.isAbsolute name = true)

include absolute

theorem removeDirectory_ok (done : (removeDirectory (Path.normal name)).result h = (.ok (), h')) :
    h'.Lacks (Path.normal name) := by
  obtain ⟨allowed, files, removed, rfl⟩ := change_ok done
  exact lacks_of_stat allowed (FileSystem.removeDirectory_ok absolute removed)

theorem makeDirectory_ok (done : (makeDirectory (Path.normal name)).result h = (.ok (), h')) :
    ∃ place mode, h'.Finds .target (Path.normal name) place (.directory mode) := by
  obtain ⟨allowed, files, made, rfl⟩ := change_ok done
  obtain ⟨place, mode, led⟩ := FileSystem.makeDirectory_ok absolute made
  exact ⟨place, mode, allowed, led⟩

theorem changeMode_ok {mode : Nat} (done : (changeMode (Path.normal name) mode).result h = (.ok (), h')) :
    ∃ place entry, h.Finds .target (Path.normal name) place entry ∧ (entry.withMode mode).mode = mode ∧
      ∀ purpose, h.Finds purpose (Path.normal name) place entry →
        h'.Finds purpose (Path.normal name) place (entry.withMode mode) := by
  obtain ⟨allowed, files, changed, rfl⟩ := change_ok done
  obtain ⟨place, entry, led, set, kept⟩ := FileSystem.changeMode_ok (Path.isAbsolute_normal absolute) changed
  exact ⟨place, entry, ⟨allowed, led⟩, set, fun purpose finds => ⟨allowed, kept purpose finds.led⟩⟩

end Host

end Converge
