import Converge.Proofs.ExitStatus

/-!
# Faults of scripts

A run of a script of records that is there ends with its summary and with what went wrong on its ledger, whatever
the file holds and whatever the backends do (`run_ends`). One thing alone ends it without them: a well-formed
document in which a scalar says something impossible.
-/

namespace Converge

namespace Session

/-! ## Loading -/

/-- The text at a path is a well-formed document, but a scalar in it says something impossible. -/
def Impossible (sets : Value.SetOrder) (h : Host) (path : String) (fault : DocumentFault) : Prop :=
  ∃ source, ((Host.readText path).result h).1 = .ok source ∧ Document.load sets source = .error fault ∧
    fault.isMalformed = false

theorem checkPath_of_exists {h : Host} {path : String} (present : ((Host.exists? path).result h).1 = .ok true) :
    Host.checkPath path = .ok () := by
  simp only [Host.exists?, Host.ask, Action.result_of] at present
  cases checked : Host.checkPath path with
  | ok done => rfl
  | error fault =>
    rw [checked] at present
    cases present

/-- What keeps the text of a file from being read is told by the system, or is in its bytes. -/
theorem readText_fault {path : String} (checked : Host.checkPath path = .ok ()) :
    Raises (fun fault => ∀ path, ∃ message, Script.unreadable path fault = .script message) (Host.readText path) := by
  refine .bind ?_ fun bytes => ?_
  · intro h fault raised
    simp only [Host.readBytes, Host.consult, Action.result_of, checked] at raised
    split at raised
    · next refused => cases refused
    · cases raised
    · cases raised
      exact fun _ => ⟨_, rfl⟩
  · cases Text.decode bytes with
    | ok s => exact .pure _
    | error fault => exact .throw fun _ => ⟨_, rfl⟩

theorem ofText_fault {runtime : Runtime} {path source : String} (document : IsDocument path) {fault : Fault}
    (unread : Script.ofText runtime path source = .error fault) : (∃ message, fault = .script message) ∨
      ∃ impossible, Document.load runtime.sets source = .error impossible ∧ impossible.isMalformed = false ∧
        fault = .document impossible := by
  rw [IsDocument] at document
  rw [Script.ofText, if_pos document] at unread
  unfold Script.ofDocument at unread
  split at unread
  · next wrong loaded =>
    rw [Except.error.injEq] at unread
    split at unread
    · exact .inl ⟨_, unread.symm⟩
    · next sound => exact .inr ⟨wrong, loaded, by simpa using sound, unread.symm⟩
  · split at unread
    · exact .inl ⟨_, (Except.error.inj unread).symm⟩
    · cases unread

/-- Where a script of records is there, all that keeps it from being loaded is a fault of the script, except for an
impossible scalar. -/
theorem load_fault {runtime : Runtime} {h : Host} {path : String} (document : IsDocument path)
    (present : ((Host.exists? path).result h).1 = .ok true) {fault : Fault}
    (unread : ((Script.load runtime path).result h).1 = .error fault) :
    (∃ message, fault = .script message) ∨
      ∃ impossible, Impossible runtime.sets h path impossible ∧ fault = .document impossible := by
  rw [Script.load, Action.result_bind_of_ok (Action.result_attempt (Host.readText path) h)] at unread
  cases read : ((Host.readText path).result h).1 with
  | error other =>
    -- A path that was found has bytes, so its check cannot be what fails.
    rw [read] at unread
    obtain ⟨message, same⟩ := readText_fault (checkPath_of_exists present) h other read path
    simp only [Action.result_throw, same, Except.error.injEq] at unread
    exact .inl ⟨message, unread.symm⟩
  | ok source =>
    rw [read] at unread
    simp only [Action.result_ofExcept] at unread
    obtain script | ⟨impossible, loaded, sound, same⟩ := ofText_fault document unread
    · exact .inl script
    · exact .inr ⟨impossible, ⟨source, read, loaded, sound⟩, same⟩

/-! ## Runs -/

section

variable {σ : Type} [Hosted σ]

/-- A run has printed its summary, and after it the failures on its ledger. -/
def Closed (after : Run σ) : Prop :=
  ∃ out err, (Hosted.host after).console.out = out ++ Console.lineOf after.ledger.summary ∧
    (Hosted.host after).console.err = err ++ (Hosted.host after).console.told after.ledger.errors

theorem close_closed {ε : Type} (t : Run (Traced σ ε)) : ∃ after,
    close.result t = (.ok after.ledger.errors.length, after) ∧ after.ledger = t.ledger ∧
      after.world.trace = t.world.trace ∧ Closed after := by
  obtain ⟨after, closed, kept, trace, out, err, bytes⟩ := close_result t
  refine ⟨after, by rw [closed, kept], kept, trace, (Hosted.host t).console.out, (Hosted.host t).console.err, ?_, ?_⟩
  · rw [out, kept]
  · rw [err, Console.told_congr bytes, kept]

variable {ε : Type} (s : Session (Traced σ ε)) (path : String) (extra : List String) (t : Run (Traced σ ε))
    (present : ((Host.exists? (Path.normal path)).result (Hosted.host t)).1 = .ok true)
include present

/-- A run of a script that is broken makes no call, and leaves this one failure on its ledger and no resource. -/
theorem run_broken_ledger {message : String}
    (broken : ((Script.load s.runtime (Path.normal path)).result (Hosted.host t)).1 = .error (.script message)) :
    ∃ after, (s.run path extra).result t = (.ok 1, after) ∧ after.world.trace = t.world.trace ∧
      after.ledger = ⟨[message], []⟩ ∧ Closed after := by
  obtain ⟨start, fresh, same, begun⟩ := s.run_unread path extra t present broken
  have settled : (settle (.error (.script message))).result start =
      (.ok (), { start with ledger := start.ledger.recordFailures [message] }) := rfl
  obtain ⟨after, closed, kept, trace, ended⟩ := close_closed { start with ledger := start.ledger.recordFailures [message] }
  have left : after.ledger = ⟨[message], []⟩ := by
    rw [kept, fresh]
    rfl
  refine ⟨after, ?_, trace.trans same, left, ended⟩
  rw [begun, Action.result_bind_of_ok settled, closed, left]
  rfl

/-- A run of a script that is broken records this as its one failure. -/
theorem run_broken {message : String}
    (broken : ((Script.load s.runtime (Path.normal path)).result (Hosted.host t)).1 = .error (.script message)) :
    ∃ after, (s.run path extra).result t = (.ok after.ledger.errors.length, after) ∧
      after.world.trace = t.world.trace ∧ after.ledger.errors = [message] ∧ Closed after := by
  obtain ⟨after, run, trace, left, ended⟩ := s.run_broken_ledger path extra t present broken
  refine ⟨after, ?_, trace, by rw [left], ended⟩
  rw [run, left]
  rfl

/-- A run of a script with an impossible scalar raises the fault of the scalar, and records nothing. -/
theorem run_impossible {fault : DocumentFault}
    (impossible : ((Script.load s.runtime (Path.normal path)).result (Hosted.host t)).1 = .error (.document fault)) :
    ∃ after, (s.run path extra).result t = (.error (.document fault), after) ∧
      after.world.trace = t.world.trace ∧ after.ledger = .empty := by
  obtain ⟨start, fresh, same, begun⟩ := s.run_unread path extra t present impossible
  exact ⟨start, begun, same, fresh⟩

end

section

variable {σ : Type} [Hosted σ]

theorem wordings_eq {fault : Fault} (counts : fault.Counts) (path : String) :
    wordings path (.error fault) = [path ++ ": " ++ fault.kind ++ ": " ++ fault.message] := by
  cases fault with
  | enforcement ref => exact absurd counts id
  | blockEnforcement => exact absurd counts id
  | untold kind cause text => exact absurd counts id
  | _ => rfl

/-- A fault that stops a script, where no backend raises one that stands for a failed call, leaves a failure. -/
theorem errors_of_course {seen : List Request → σ → Prop} {options : Options} {before : List Request}
    {is : List Instruction} {calls : List Call} {outcome : Except Fault Unit}
    (course : Course seen options before is calls outcome) (counts : ∀ c ∈ calls, Fails Fault.Counts c.reply)
    {path : String} (stopped : outcome ≠ .ok ()) :
    (calls.filterMap (Call.recorded? options)).flatMap Reply.failures ++ wordings path outcome ≠ [] := by
  -- Without a failure every instruction was a call that went on, which leaves no way to have stopped.
  intro free
  obtain ⟨asked, onward⟩ := (course.errors_eq_nil_iff counts path).mp free
  have all : is.length = calls.length := by simpa using congrArg List.length asked
  rcases course.ending with ⟨ended, -⟩ | ⟨_, i, -, next, -⟩ | ⟨fault, c, -, last, stops⟩
  · exact stopped ended
  · rw [List.getElem?_eq_none all.le] at next
    cases next
  · rw [(onward c (List.mem_of_getLast? last)).1] at stops
    cases stops

/-- A run of a script of records that is there, whatever its bytes, the options, the backends and the runs before, on a
console that stays of some kinds: it returns the number of the failures on its ledger, with its summary and these
printed. A script that is broken leaves its own fault alone, and one that loads takes its course; a fault that stops it
leaves a failure, unless a backend raised the fault that stands for a failed call. Two things are raised instead: an
impossible scalar of a well-formed document, before any call, and what a fault of a backend raises when it is asked for
a text that it does not have. -/
theorem run_ends (s : Session σ) (path : String) (extra : List String) (t : Run σ)
    (document : IsDocument (Path.normal path))
    (present : ((Host.exists? (Path.normal path)).result (Hosted.host t)).1 = .ok true) {kind : Bool → Prop}
    (print : s.backends.Print kind) (printed : kind (Hosted.host t).console.asBytes) :
    ∃ (outcome : Except Fault Nat) (after : Run σ) (calls : List Call),
      (s.run path extra).result t = (outcome, after) ∧
      ((s.against s.backends.recorded).run path extra).result ⟨t.ledger, t.world, []⟩ =
        (outcome, ⟨after.ledger, after.world, calls⟩) ∧
      ((∃ fault, Impossible s.runtime.sets (Hosted.host t) (Path.normal path) fault ∧ outcome = .error (.document fault) ∧
          calls = [] ∧ after.ledger = .empty) ∨
        (∃ message, ((Script.load s.runtime (Path.normal path)).result (Hosted.host t)).1 = .error (.script message) ∧
          outcome = .ok after.ledger.errors.length ∧ Closed after ∧ calls = [] ∧ after.ledger.errors = [message]) ∨
        ∃ is stop, Loads s.runtime (Hosted.host t) path is ∧
          Course (fun _ (w : σ) => kind (Hosted.host w).console.asBytes) s.options [] is calls stop ∧
          ((∀ c ∈ calls, Fails Fault.IsTold c.reply) → outcome = .ok after.ledger.errors.length ∧ Closed after) ∧
          (∀ fault, stop = .error fault → fault.Counts → after.ledger.errors.getLast? =
            some (Path.normal path ++ ": " ++ fault.kind ++ ": " ++ fault.message)) ∧
          ((∀ c ∈ calls, Fails Fault.Counts c.reply) → stop ≠ .ok () → after.ledger.errors ≠ [])) := by
  cases loaded : ((Script.load s.runtime (Path.normal path)).result (Hosted.host t)).1 with
  | error fault =>
    have plain := run_follows Traced.projects s (Backends.recorded_follow _) path extra ⟨t.ledger, t.world, []⟩
    rcases load_fault document present loaded with ⟨message, rfl⟩ | ⟨fault, impossible, rfl⟩
    · obtain ⟨⟨ledger, world, calls⟩, run, trace, errors, closed⟩ :=
        (s.against s.backends.recorded).run_broken path extra ⟨t.ledger, t.world, []⟩ present loaded
      rw [run] at plain
      exact ⟨_, ⟨ledger, world⟩, calls, plain, run, .inr (.inl ⟨message, rfl, rfl, closed, trace, errors⟩)⟩
    · obtain ⟨⟨ledger, world, calls⟩, run, trace, empty⟩ :=
        (s.against s.backends.recorded).run_impossible path extra ⟨t.ledger, t.world, []⟩ present loaded
      rw [run] at plain
      exact ⟨_, ⟨ledger, world⟩, calls, plain, run, .inl ⟨fault, impossible, rfl, trace, empty⟩⟩
  | ok script =>
    obtain ⟨is, rfl⟩ := load_eq document loaded
    have loads : Loads s.runtime (Hosted.host t) path is := ⟨present, loaded⟩
    obtain ⟨calls, stop, ⟨ledger, world⟩, run, recorded, course, left, closed⟩ :=
      s.run_recorded print.lead path extra [] t printed loads
    rw [noteAll_eq] at left
    obtain rfl : ledger = _ := left
    refine ⟨_, ⟨_, world⟩, calls, run, recorded, .inr (.inr
      ⟨is, stop, loads, course, fun told => ?_, fun fault stopped counts => ?_, fun counts stopped => ?_⟩)⟩
    · have kept := course.kept told
      exact ⟨by rw [endOf, kept], closed kept⟩
    · rw [stopped, wordings_eq counts]
      exact List.getLast?_concat
    · exact errors_of_course course counts stopped

end

def raising : Backends Host := ⟨fun _ => throw (.raised "boom"), fun _ => throw (.raised "boom")⟩

theorem isDocument_script : IsDocument (Path.normal "/s.yaml") := by
  rw [IsDocument]
  decide +kernel

/-- A call raised with a text. -/
def hasRaised : Except Fault Reply → Bool
  | .error (.raised _) => true
  | _ => false

/-- A backend that raises at the one record of a script leaves one failure. -/
theorem run_ends_raising : IsDocument (Path.normal "/s.yaml") ∧
    ((Host.exists? (Path.normal "/s.yaml")).result oneNotice).1 = .ok true ∧
    (raising.Print (· = false) ∧ oneNotice.console.asBytes = false) ∧
    ∃ after : Run Host, ((⟨raising, .default, plainly⟩ : Session Host).run "/s.yaml" []).result ⟨.empty, oneNotice⟩ =
      (.ok 1, after) ∧ after.ledger.errors.length = 1 ∧ Closed after := by
  have one : (((⟨raising, .default, plainly⟩ : Session Host).run "/s.yaml" []).result ⟨.empty, oneNotice⟩).1.toOption =
      some 1 := by decide +kernel
  have print : raising.Print (· = false) := ⟨fun _ _ printed => printed, fun _ _ printed => printed⟩
  have raised : ∀ ended, (((⟨raising, .default, plainly⟩ : Session Host).against raising.recorded).run "/s.yaml" []).result
      ⟨.empty, oneNotice, []⟩ = ended → ended.2.world.trace.all (fun c => hasRaised c.reply) = true := by
    rintro _ rfl
    decide +kernel
  obtain ⟨outcome, after, calls, run, recorded, ends⟩ :=
    run_ends (⟨raising, .default, plainly⟩ : Session Host) "/s.yaml" [] ⟨.empty, oneNotice⟩ isDocument_script
      oneNotice_loads.present print rfl
  have told : ∀ c ∈ calls, Fails Fault.IsTold c.reply := by
    intro c member fault failed
    have boom := List.all_eq_true.mp (raised _ recorded) c member
    rw [failed] at boom
    cases fault with
    | raised message => rfl
    | _ => cases boom
  rw [run] at one
  have ended : outcome = .ok after.ledger.errors.length ∧ Closed after := by
    obtain ⟨_, -, rfl, -⟩ | ⟨_, -, same, closed, -⟩ | ⟨_, _, -, -, ends, -⟩ := ends
    · cases one
    · exact ⟨same, closed⟩
    · exact ends told
  obtain ⟨rfl, closed⟩ := ended
  have length : after.ledger.errors.length = 1 := Option.some.inj one
  exact ⟨isDocument_script, oneNotice_loads.present, ⟨print, rfl⟩, after, length ▸ run, length, closed⟩

def impossibleDate : Host :=
  let script := "- \x7bcall: resource, type: notify, name: a, params: \x7bmessage: 2020-02-30\x7d\x7d\n"
  { Host.bare with files := ⟨[([], .directory 0o755), (["s.yaml"], .file script.toUTF8 0o644)], 0o022⟩ }

/-- A script with a date that is none ends its run by a fault, not with a number. -/
theorem run_impossibleDate : IsDocument (Path.normal "/s.yaml") ∧
    ((Host.exists? (Path.normal "/s.yaml")).result impossibleDate).1 = .ok true ∧
    (((⟨agreeing, .default, plainly⟩ : Session Host).run "/s.yaml" []).result ⟨.empty, impossibleDate⟩).1.toOption =
      none :=
  ⟨isDocument_script, rfl, by decide +kernel⟩

end Session

end Converge
