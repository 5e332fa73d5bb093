import Converge.Proofs.Strategies

/-!
# Scripts in either form

A line means an instruction when the values of its arguments are what the instruction has (`Means`). Lines that mean
the instructions of a list take the same course as these do (`evaluate_lines`), and where the calls so far settle
every answer and on which kind of console is printed, this course is the only one (`Course.unique`). So it makes no
difference in which form a script is written (`run_eitherForm`).
-/

namespace Converge

/-! ## Values that can be written -/

mutual

/-- Nothing in a value is such that no document can hold it. -/
def Value.IsWritable : Value → Prop
  | .foreign => False
  | .list _ items | .tuple items | .set _ items => areWritable items
  | .map _ entries => entriesAreWritable entries
  | _ => True

def Value.areWritable : List Value → Prop
  | [] => True
  | v :: rest => v.IsWritable ∧ areWritable rest

/-- All keys and values of a mapping can be written. -/
def Value.entriesAreWritable : List (Value × Value) → Prop
  | [] => True
  | (k, v) :: rest => k.IsWritable ∧ v.IsWritable ∧ entriesAreWritable rest

end

namespace Document

mutual

theorem check_fault {fault : DocumentFault} :
    (v : Value) → v.IsWritable → check v = .error fault → fault = .longNumber
  | .foreign, writable, _ => writable.elim
  | .int i, _, refused => by
    rw [check] at refused
    split at refused
    · cases refused
    · exact (Except.error.inj refused).symm
  | .list _ items, writable, refused => checkAll_fault items writable refused
  | .tuple items, writable, refused => checkAll_fault items writable refused
  | .set _ items, writable, refused => checkAll_fault items writable refused
  | .map _ entries, writable, refused => checkEntries_fault entries writable refused
  | .null, _, refused | .bool _, _, refused | .float _, _, refused | .text _, _, refused | .bytes _, _, refused
  | .date .., _, refused | .moment .., _, refused | .again .., _, refused => by cases refused

theorem checkAll_fault {fault : DocumentFault} :
    (items : List Value) → Value.areWritable items → checkAll items = .error fault → fault = .longNumber
  | [], _, refused => by cases refused
  | v :: rest, ⟨first, later⟩, refused => by
    rw [checkAll] at refused
    cases checked : check v with
    | error other =>
      rw [checked] at refused
      cases refused
      exact check_fault v first checked
    | ok done =>
      rw [checked] at refused
      exact checkAll_fault rest later refused

theorem checkEntries_fault {fault : DocumentFault} :
    (entries : List (Value × Value)) → Value.entriesAreWritable entries → checkEntries entries = .error fault →
      fault = .longNumber
  | [], _, refused => by cases refused
  | (k, v) :: rest, ⟨key, value, later⟩, refused => by
    rw [checkEntries] at refused
    cases checkedKey : check k with
    | error other =>
      rw [checkedKey] at refused
      cases refused
      exact check_fault k key checkedKey
    | ok done =>
      rw [checkedKey] at refused
      cases checked : check v with
      | error other =>
        rw [checked] at refused
        cases refused
        exact check_fault v value checked
      | ok done =>
        rw [checked] at refused
        exact checkEntries_fault rest later refused

end

/-- A value that can be written is refused only for the length of a number. -/
theorem dump_fault {v : Value} (writable : v.IsWritable) {fault : DocumentFault} (refused : dump v = .error fault) :
    fault = .longNumber := by
  rw [dump] at refused
  cases checked : check v with
  | error other =>
    rw [checked] at refused
    cases refused
    exact check_fault v writable checked
  | ok done =>
    rw [checked] at refused
    cases refused

end Document

/-! ## Lines and instructions -/

/-- A value brings the parameters of a table: it is null for none, or a mapping under texts. -/
inductive Value.Brings : Value → Parameters → Prop
  | null : Brings .null ∅
  | mapping {v : Value} {t : Parameters} (given : v.entries? = some (t.entries.map fun e => (.text e.1, e.2))) :
      Brings v t

def Script.ofLines (sets : Value.SetOrder) (path : String) (lines : List Statement) : Script :=
  .calls path fun facts => .ofLines ⟨path, facts, sets⟩ lines

namespace Session

/-- A line means what an instruction does. Its arguments have values that go with the names of the call. For a
resource these are the texts of its type and its name, and its parameters are what comes under `params` with what
comes under other names after it, or in its place. For a block of code the value is the code. -/
inductive Means (scope : Expr.Scope) : Statement → Instruction → Prop
  | resource {positional : List Expr} {named : List (String × Expr)} {values : List Value}
      {others : List (String × Value)} {given extra : Table Value} {type name : String} {own : Parameters}
      {params : Option Parameters} (evaluated : Expr.arguments scope positional named = .ok (values, others))
      (bound : resourceCallee.bind values others = .ok (given, extra))
      (typed : given.get? "type" = some (.text type)) (titled : given.get? "name" = some (.text name))
      (brings : ((given.get? "params").getD .null).Brings own)
      (merged : params.getD ∅ = own.insertAll extra.entries) :
      Means scope (.resource positional named) (.resource type name params)
  | block {positional : List Expr} {named : List (String × Expr)} {values : List Value}
      {others : List (String × Value)} {given extra : Table Value} {code : Code}
      (evaluated : Expr.arguments scope positional named = .ok (values, others))
      (bound : applyCallee.bind values others = .ok (given, extra))
      (coded : given.get? "code" = some code.toValue) (writable : code.toValue.IsWritable) :
      Means scope (.apply positional named) (.block code)

theorem entriesOf_brings {v : Value} {t : Parameters} (brings : v.Brings t) :
    entriesOf v = .ok (t.entries.map fun e => (.text e.1, e.2)) := by
  cases brings with
  | null => rfl
  | mapping given =>
    rw [entriesOf]
    split
    · rw [given]
    · next falsy =>
      cases v with
      | map share entries =>
        obtain rfl : entries = [] := by simpa [Value.isTruthy] using falsy
        cases share with
        | none => exact congrArg _ (Option.some.inj given)
        | some n => exact congrArg _ (Option.some.inj given)
      | _ => cases given

theorem request_getD (type name : String) (params : Option Parameters) :
    (Instruction.resource type name params).request =
      (Instruction.resource type name (some (params.getD ∅))).request := by
  cases params <;> rfl

variable {σ ε : Type} [Hosted σ] {call : ε → Call} {sound : ε → Prop} {seen : List Request → σ → Prop}

/-- Lines one after the other are carried out one after the other. -/
theorem proceed_ofLines (s : Session σ) (scope : Expr.Scope) (lines : List Statement) :
    s.proceed (.ofLines scope lines) = lines.forM fun line => s.proceed (.ofLine scope .done line) := by
  have onward {α : Type} (a : Action (Run σ) α) (rest : Routine) :
      (do s.proceed (Routine.onward rest (← a.attempt))) =
        (do s.proceed (Routine.onward .done (← a.attempt))) >>= fun _ => s.proceed rest := by
    rw [s.attempt_raising a fun _ => rfl, s.attempt_raising a fun _ => rfl, bind_assoc]
    exact congrArg _ (funext fun _ => rfl)
  induction lines with
  | nil => rfl
  | cons line lines ih =>
    rw [forM_cons, ← ih]
    change s.proceed (.ofLine scope (.ofLines scope lines) line) = _
    generalize Routine.ofLines scope lines = rest
    cases line with
    | nothing => rfl
    | stop arguments =>
      rw [Routine.ofLine, Routine.ofLine]
      cases Expr.evalAll scope arguments <;> rfl
    | evaluate e =>
      rw [Routine.ofLine, Routine.ofLine]
      cases e.eval scope <;> rfl
    | resource positional named =>
      rw [Routine.ofLine, Routine.ofLine]
      cases Expr.arguments scope positional named with
      | error fault => rfl
      | ok values => exact onward _ rest
    | apply positional named =>
      rw [Routine.ofLine, Routine.ofLine]
      cases Expr.arguments scope positional named with
      | error fault => rfl
      | ok values => exact onward _ rest

/-- A block of code that is a mapping goes as its instruction does, although it is announced before it is written as
text. -/
theorem Enacts.apply_mapping {s : Session (Traced σ ε)} (records : Records call sound seen s.backends)
    {entries : Parameters} (writable : (Code.mapping entries).toValue.IsWritable) :
    Enacts s call sound seen (.block (.mapping entries)) (do
      let _ ← s.apply (Code.mapping entries).toValue
      return ()) := by
  cases written : Document.dump (Code.mapping entries).toValue with
  | ok code =>
    refine .of_eq records ?_
    have result : s.blockResult (Code.mapping entries).toValue = onWorld (s.backends.applyBlock (.text code)) := by
      simp only [Code.toValue] at written ⊢
      rw [blockResult, written]
      simp
    simp [apply_eq, result, Instruction.request, written, Except.map, Except.mapError, carryOut, Request.announcement]
  | error fault =>
    have request : (Instruction.block (.mapping entries)).request = .error (.document fault) := by
      rw [Instruction.request, written]
      rfl
    obtain rfl := Document.dump_fault writable written
    have result : s.blockResult (Code.mapping entries).toValue = throw (.document .longNumber) := by
      simp only [Code.toValue] at written ⊢
      rw [blockResult, written]
      · rfl
      · simp
    constructor
    · intro fault refused t
      obtain rfl := Except.error.inj (request.symm.trans refused)
      obtain ⟨announced, said, quiet⟩ := announce_result s.options (.block (Code.mapping entries).toValue) t
      have taken : (Request.block (Code.mapping entries).toValue).announce s.options (printsBytes t) = .ok () := by
        rw [Request.announce, Request.announcement, Console.takes_of_plain (by decide : Text.Plain "Running code block"), ite_self]
      rw [taken] at said
      refine ⟨announced, ?_, quiet⟩
      rw [apply_eq, result]
      refine Action.result_bind_of_error ?_
      exact Action.result_bind_of_ok said
    · intro q asked
      rw [request] at asked
      cases asked

/-- A line goes as the instruction does that it means. -/
theorem Means.enacts {s : Session (Traced σ ε)} (records : Records call sound seen s.backends) {scope : Expr.Scope}
    {line : Statement} {i : Instruction} (means : Means scope line i) :
    Enacts s call sound seen i (s.proceed (.ofLine scope .done line)) := by
  cases means with
  | @resource positional named values others _ extra type name _ _ evaluated bound typed titled brings merged =>
    refine .of_eq records ?_
    have line : s.proceed (.ofLine scope .done (.resource positional named)) = (do
        let _ ← s.callResource values others
        return ()) := by
      rw [Routine.ofLine, evaluated]
      exact s.attempt_raising _ fun _ => rfl
    rw [line, request_getD, merged, ← s.resource_eq type name (entriesOf_brings brings) extra]
    simp [callResource, bound, typed, titled, ofExcept_bind]
  | @block positional named values others _ _ code evaluated bound coded writable =>
    have line : s.proceed (.ofLine scope .done (.apply positional named)) = (do
        let _ ← s.apply code.toValue
        return ()) := by
      rw [Routine.ofLine, evaluated]
      refine (s.attempt_raising _ fun _ => rfl).trans ?_
      simp [proceed, Routine.onward, callApply, bound, coded, ofExcept_bind]
    rw [line]
    cases code with
    | text code => exact .of_eq records (s.apply_text_eq code)
    | mapping entries => exact .apply_mapping records writable

/-- Lines take the course of the instructions that they mean. -/
theorem evaluate_lines (s : Session (Traced σ ε)) (records : Records call sound seen s.backends) {path : String}
    {lines : List Statement} {is : List Instruction}
    (means : List.Forall₂ (Means ⟨path, s.runtime.facts, s.runtime.sets⟩) lines is) :
    TakesCourse s call sound seen path (.ofLines s.runtime.sets path lines) is := by
  intro before t known
  obtain ⟨entries, outcome, after, course, sounds, run, left⟩ :=
    forM_course (means.imp fun _ _ means => means.enacts records) t known
  refine ⟨entries, outcome, after, course, sounds, ?_, left⟩
  rw [Script.ofLines, evaluate, inScript_result, proceed_ofLines, run]

end Session

/-! ## Answers that the calls so far settle -/

/-- What is answered to a request, given the requests before it, and on which kind of console is printed after some
requests. -/
structure Answers where
  enforce : List Request → Resource → Except Fault Enforcement
  applyBlock : List Request → Value → Except Fault BlockResult
  asBytes : List Request → Bool

namespace Answers

def call (a : Answers) (before : List Request) : Request → Call
  | .resource r => .resource r (a.enforce before r)
  | .block code => .block code (a.applyBlock before code)

/-- Each of some calls is what its request leads to after those before it. -/
def Settle (a : Answers) : List Request → List Call → Prop
  | _, [] => True
  | before, c :: calls => a.call before c.request = c ∧ a.Settle (before ++ [c.request]) calls

theorem settle_append {a : Answers} {before : List Request} {first second : List Call} :
    a.Settle before (first ++ second) ↔
      a.Settle before first ∧ a.Settle (before ++ first.map Call.request) second := by
  induction first generalizing before with
  | nil => simp [Settle]
  | cons c first ih => simp [Settle, ih, and_assoc]

end Answers

section

variable {σ : Type} [Hosted σ]

/-- The answers of backends depend on the requests so far alone: `past` tells which states have seen which requests,
whatever has been printed since. -/
structure Backends.Answer (b : Backends σ) (a : Answers) (past : List Request → σ → Prop) : Prop where
  enforce : ∀ {before w} (r : Resource), past before w → ∃ after,
    (b.enforce r).result w = (a.enforce before r, after) ∧ past (before ++ [.resource r]) after
  applyBlock : ∀ {before w} (code : Value), past before w → ∃ after,
    (b.applyBlock code).result w = (a.applyBlock before code, after) ∧ past (before ++ [.block code]) after
  stays : Stays past
  kind : ∀ {before w}, past before w → (Hosted.host w).console.asBytes = a.asBytes before

theorem Backends.Answer.lead {b : Backends σ} {a : Answers} {past : List Request → σ → Prop}
    (answer : b.Answer a past) : b.Lead past := by
  refine ⟨fun r known => ?_, fun code known => ?_, answer.stays⟩
  · obtain ⟨after, run, known'⟩ := answer.enforce r known
    rwa [run]
  · obtain ⟨after, run, known'⟩ := answer.applyBlock code known
    rwa [run]

/-- Calls were put on the record, with the answers that the requests before settle. -/
def Answered (a : Answers) (past : List Request → σ → Prop) (w after : Traced σ Call) : Prop :=
  ∀ before, past before w.world → ∃ calls, after.trace = w.trace ++ calls ∧ a.Settle before calls ∧
    past (before ++ calls.map Call.request) after.world

namespace Answered

variable {a : Answers} {past : List Request → σ → Prop}

instance : Std.Refl (Answered a past) := ⟨fun w before seen => ⟨[], by simp, trivial, by simpa using seen⟩⟩

instance : IsTrans _ (Answered a past) := by
  refine ⟨fun w v u first second before seen => ?_⟩
  obtain ⟨calls, trace, settled, seen'⟩ := first before seen
  obtain ⟨later, trace', settled', seen''⟩ := second _ seen'
  refine ⟨calls ++ later, ?_, Answers.settle_append.mpr ⟨settled, settled'⟩, ?_⟩
  · rw [trace', trace, List.append_assoc]
  · rwa [List.map_append, ← List.append_assoc]

variable {b : Backends σ} (answer : b.Answer a past)

include answer

theorem shows : Shows (Answered a past) := by
  rintro w _ ⟨c, kind, rfl⟩ before seen
  refine ⟨[], by simp [Hosted.withHost], trivial, ?_⟩
  rw [List.map_nil, List.append_nil]
  exact answer.stays _ _ _ seen ⟨c, kind, rfl⟩

theorem enforce (r : Resource) : Leaves (Answered a past) (b.recorded.enforce r) := by
  intro w before seen
  obtain ⟨after, run, seen'⟩ := answer.enforce r seen
  refine ⟨[.resource r (a.enforce before r)], ?_, ⟨rfl, trivial⟩, ?_⟩
  · simp [Backends.recorded, noted, run]
  · simpa [Backends.recorded, noted, run, Call.request] using seen'

theorem applyBlock (code : Value) : Leaves (Answered a past) (b.recorded.applyBlock code) := by
  intro w before seen
  obtain ⟨after, run, seen'⟩ := answer.applyBlock code seen
  refine ⟨[.block code (a.applyBlock before code)], ?_, ⟨rfl, trivial⟩, ?_⟩
  · simp [Backends.recorded, noted, run]
  · simpa [Backends.recorded, noted, run, Call.request] using seen'

end Answered

end

namespace Session

/-- The requests before settle the one call that an instruction leads to. -/
theorem call_unique {a : Answers} {before : List Request} {i : Instruction} {c d : Call} {calls others : List Call}
    (asked : i.request = .ok c.request) (asked' : i.request = .ok d.request) (settled : a.Settle before (c :: calls))
    (settled' : a.Settle before (d :: others)) : c = d := by
  have same : c.request = d.request := Except.ok.inj (asked.symm.trans asked')
  rw [← settled.1, ← settled'.1, same]

/-- The requests before settle what an announcement comes to. -/
theorem announce_unique {σ : Type} [Hosted σ] {past : List Request → σ → Prop} {options : Options} {a : Answers}
    (kind : ∀ {before w}, past before w → (Hosted.host w).console.asBytes = a.asBytes before) {before : List Request}
    {i : Instruction} {q q' : Request} {w w' : σ} (asked : i.request = .ok q) (asked' : i.request = .ok q')
    (known : past before w) (known' : past before w') :
    q.announce options (Hosted.host w).console.asBytes = q'.announce options (Hosted.host w').console.asBytes := by
  rw [kind known, kind known', Except.ok.inj (asked.symm.trans asked')]

/-- Where the requests before settle each answer and what can be announced, instructions have no more than one
course. -/
theorem Course.unique {σ : Type} [Hosted σ] {past : List Request → σ → Prop} {options : Options} {a : Answers}
    (kind : ∀ {before w}, past before w → (Hosted.host w).console.asBytes = a.asBytes before)
    {before : List Request} {is : List Instruction} {calls others : List Call} {outcome other : Except Fault Unit}
    (course : Course past options before is calls outcome) (second : Course past options before is others other)
    (settled : a.Settle before calls) (settled' : a.Settle before others) : calls = others ∧ outcome = other := by
  -- What one course says of an instruction the other cannot deny, so that both have the same case.
  induction course generalizing others other with
  | done =>
    cases second
    exact ⟨rfl, rfl⟩
  | refused refused =>
    cases second with
    | refused again => exact ⟨rfl, congrArg _ (Except.error.inj (refused.symm.trans again))⟩
    | unannounced asked | ended asked | next asked => cases refused.symm.trans asked
  | unannounced asked known unsaid =>
    cases second with
    | refused refused => cases refused.symm.trans asked
    | unannounced asked' known' unsaid' =>
      rw [announce_unique kind asked asked' known known'] at unsaid
      exact ⟨rfl, congrArg _ (Except.error.inj (unsaid.symm.trans unsaid'))⟩
    | ended asked' known' said | next asked' known' said =>
      rw [announce_unique kind asked asked' known known'] at unsaid
      cases unsaid.symm.trans said
  | ended asked known said verdict =>
    cases second with
    | refused refused => cases refused.symm.trans asked
    | unannounced asked' known' unsaid =>
      rw [announce_unique kind asked asked' known known'] at said
      cases unsaid.symm.trans said
    | ended asked' _ _ verdict' =>
      obtain rfl := call_unique asked asked' settled settled'
      exact ⟨rfl, verdict.symm.trans verdict'⟩
    | next asked' _ _ verdict' =>
      obtain rfl := call_unique asked asked' settled settled'
      cases verdict.symm.trans verdict'
  | next asked known said verdict later ih =>
    cases second with
    | refused refused => cases refused.symm.trans asked
    | unannounced asked' known' unsaid =>
      rw [announce_unique kind asked asked' known known'] at said
      cases unsaid.symm.trans said
    | ended asked' _ _ verdict' =>
      obtain rfl := call_unique asked asked' settled settled'
      cases verdict.symm.trans verdict'
    | next asked' _ _ verdict' later' =>
      obtain rfl := call_unique asked asked' settled settled'
      obtain ⟨rfl, ended⟩ := ih later' settled.2 settled'.2
      exact ⟨rfl, ended⟩

/-! ## Runs -/

/-- A script of some lines is at a path of the host. -/
structure LoadsLines (runtime : Runtime) (h : Host) (path : String) (lines : List Statement) : Prop where
  present : ((Host.exists? (Path.normal path)).result h).1 = .ok true
  script : ((Script.load runtime (Path.normal path)).result h).1 =
    .ok (.ofLines runtime.sets (Path.normal path) lines)

theorem wordings_path (outcome : Except Fault Unit) : ∃ last : Option String,
    ∀ path, wordings path outcome = (last.map (path ++ ": " ++ ·)).toList := by
  cases outcome with
  | ok done => exact ⟨none, fun _ => rfl⟩
  | error fault =>
    cases fault with
    | enforcement ref => exact ⟨none, fun _ => rfl⟩
    | blockEnforcement => exact ⟨none, fun _ => rfl⟩
    | untold => exact ⟨none, fun _ => rfl⟩
    | _ => exact ⟨some _, fun path => congrArg (fun s => [s]) (by rw [String.append_assoc, String.append_assoc])⟩

variable {σ : Type} [Hosted σ]

theorem settled_of_run (s : Session σ) {a : Answers} {past : List Request → σ → Prop}
    (answer : s.backends.Answer a past) (path : String) (extra : List String) {t after : Run σ}
    {before : List Request} (seen : past before t.world)
    (stepless : ∀ script, ((Script.load s.runtime (Path.normal path)).result (Hosted.host t)).1 = .ok script →
      script.Steps s.runtime.facts fun _ => False)
    {outcome : Except Fault Nat} {calls : List Call}
    (run : ((s.against s.backends.recorded).run path extra).result ⟨t.ledger, t.world, []⟩ =
      (outcome, ⟨after.ledger, after.world, calls⟩)) : a.Settle before calls := by
  obtain ⟨made, trace, settled, -⟩ := (s.against s.backends.recorded).leaves_run (Answered.shows answer)
    (Answered.enforce answer) (Answered.applyBlock answer) path extra ⟨t.ledger, t.world, []⟩
    (fun script loaded => (stepless script loaded).imp fun _ none => none.elim) before seen
  rw [run] at trace
  obtain rfl : calls = made := trace
  exact settled

theorem stepless_of_lines {runtime : Runtime} {h : Host} {path : String} {lines : List Statement}
    (written : LoadsLines runtime h path lines) (script : Script)
    (loaded : ((Script.load runtime (Path.normal path)).result h).1 = .ok script) :
    script.Steps runtime.facts fun _ => False := by
  obtain rfl := Except.ok.inj (written.script.symm.trans loaded)
  exact Routine.steps_ofLines _ _ lines

theorem stepless_of_instructions {runtime : Runtime} {h : Host} {path : String} {is : List Instruction}
    (recorded : Loads runtime h path is) (script : Script)
    (loaded : ((Script.load runtime (Path.normal path)).result h).1 = .ok script) :
    script.Steps runtime.facts fun _ => False := by
  obtain rfl := Except.ok.inj (recorded.script.symm.trans loaded)
  trivial

/-- Two runs, one of lines and one of the instructions that the lines mean, with any options and with backends whose
answers the requests before settle: both make the same calls, which take the course of the instructions, leave the
same resources and the same failures but for the path with which the last one may begin, and end alike. -/
theorem run_eitherForm (s : Session σ) {a : Answers} {past : List Request → σ → Prop}
    (answer : s.backends.Answer a past) {lines : List Statement} {is : List Instruction} {path other : String}
    (extra skipped : List String) {t u : Run σ} (written : LoadsLines s.runtime (Hosted.host t) path lines)
    (recorded : Loads s.runtime (Hosted.host u) other is)
    (means : List.Forall₂ (Means ⟨Path.normal path, s.runtime.facts, s.runtime.sets⟩) lines is)
    {before : List Request} (seen : past before t.world) (seen' : past before u.world) :
    ∃ (calls : List Call) (outcome : Except Fault Unit) (failures : List String) (last : Option String) (n : Nat)
      (after ended : Run σ), Course past s.options before is calls outcome ∧
      (s.run path extra).result t = (endOf outcome n, after) ∧
      (s.run other skipped).result u = (endOf outcome n, ended) ∧
      ((s.against s.backends.recorded).run path extra).result ⟨t.ledger, t.world, []⟩ =
        (endOf outcome n, ⟨after.ledger, after.world, calls⟩) ∧
      ((s.against s.backends.recorded).run other skipped).result ⟨u.ledger, u.world, []⟩ =
        (endOf outcome n, ⟨ended.ledger, ended.world, calls⟩) ∧
      after.ledger.resources = ended.ledger.resources ∧
      after.ledger.errors = failures ++ (last.map (Path.normal path ++ ": " ++ ·)).toList ∧
      ended.ledger.errors = failures ++ (last.map (Path.normal other ++ ": " ++ ·)).toList := by
  have records := answer.lead.records
  obtain ⟨calls, outcome, after, run, noted, course, left, -⟩ := s.run_takes_recorded answer.lead path extra
    ((s.against s.backends.recorded).evaluate_lines records means) before t seen written.present written.script
  obtain ⟨others, stop, ended, run', noted', course', left', -⟩ := s.run_takes_recorded answer.lead other skipped
    ((s.against s.backends.recorded).evaluate_course records _ is) before u seen' recorded.present recorded.script
  obtain ⟨rfl, rfl⟩ := course.unique answer.kind course'
    (s.settled_of_run answer path extra seen (stepless_of_lines written) noted)
    (s.settled_of_run answer other skipped seen' (stepless_of_instructions recorded) noted')
  obtain ⟨last, worded⟩ := wordings_path outcome
  rw [worded, Ledger.recordFailures] at left left'
  have number : ended.ledger.errors.length = after.ledger.errors.length := by
    rw [left, left']
    cases last <;> simp
  rw [number] at run' noted'
  exact ⟨calls, outcome, _, last, _, after, ended, course, run, run', noted, noted', by rw [left, left'], by rw [left],
    by rw [left']⟩

def twoLinesText : String := "resource('notify', 'b', \x7b'message': 'hi'\x7d)\napply(\x7b'notify': \x7b\x7d\x7d)\n"

/-- A host with the two calls as a script in either form. -/
def twoForms : Host :=
  let records := "[\x7bcall: resource, type: notify, name: b, params: \x7bmessage: hi\x7d\x7d, " ++
    "\x7bcall: apply, code: \x7bnotify: \x7b\x7d\x7d\x7d]\n"
  { Host.bare with files := ⟨[([], .directory 0o755), (["s.py"], .file twoLinesText.toUTF8 0o644),
    (["s.yaml"], .file records.toUTF8 0o644)], 0o022⟩ }

def twoLines : List Statement :=
  [.resource [.value (.text "notify"), .value (.text "b"),
      .mapping [(.value (.text "message"), .value (.text "hi"))]] [],
    .apply [.mapping [(.value (.text "notify"), .mapping [])]] []]

def twoInstructions : List Instruction :=
  [.resource "notify" "b" (some ⟨[("message", .text "hi")], by simp⟩),
    .block (.mapping ⟨[("notify", .map none [])], by simp⟩)]

def isTwoLines : Except Script.SyntaxFault (List Statement) → Bool
  | .ok [.resource [.value (.text type), .value (.text name),
      .mapping [(.value (.text key), .value (.text value))]] [],
      .apply [.mapping [(.value (.text kind), .mapping [])]] []] =>
    type == "notify" && name == "b" && key == "message" && value == "hi" && kind == "notify"
  | _ => false

theorem isTwoLines_iff {r : Except Script.SyntaxFault (List Statement)} : isTwoLines r = true ↔ r = .ok twoLines := by
  constructor
  · intro same
    unfold isTwoLines at same
    split at same
    · simp only [Bool.and_eq_true, beq_iff_eq] at same
      obtain ⟨⟨⟨⟨rfl, rfl⟩, rfl⟩, rfl⟩, rfl⟩ := same
      rfl
    · cases same
  · rintro rfl
    rfl

/-- The outcome of loading is the script of two instructions. -/
def isTwoInstructions : Except Fault Script → Bool
  | .ok (.instructions path [.resource type name (some ⟨[(key, .text value)], _⟩),
      .block (.mapping ⟨[(kind, .map none [])], _⟩)]) =>
    path == "/s.yaml" && type == "notify" && name == "b" && key == "message" && value == "hi" && kind == "notify"
  | _ => false

/-- Backends that enforce every resource and raise at every block of code. -/
def raisingAtBlocks : Backends Host := ⟨fun r => pure (.success r), fun _ => throw (.raised "boom")⟩

/-- What these backends answer where text is printed. -/
def blockRaises : Answers :=
  ⟨fun _ r => .ok (.success r), fun _ _ => .error (.raised "boom"), fun _ => false⟩

/-- Every state in which text is printed will do for every past, as the answers do not depend on it. -/
def anyPast (_ : List Request) (h : Host) : Prop := h.console.asBytes = false

theorem raisingAtBlocks_answer : raisingAtBlocks.Answer blockRaises anyPast where
  enforce _ past := ⟨_, rfl, past⟩
  applyBlock _ past := ⟨_, rfl, past⟩
  stays := by
    rintro before w _ past ⟨c, kind, rfl⟩
    exact kind.trans past
  kind past := past

theorem load_of_text {runtime : Runtime} {h : Host} {path source : String}
    (read : ((Host.readText path).result h).1.toOption = some source) :
    ((Script.load runtime path).result h).1 = Script.ofText runtime path source := by
  rw [Script.load, Action.result_bind_of_ok (Action.result_attempt _ _)]
  cases found : ((Host.readText path).result h).1 with
  | error fault =>
    rw [found] at read
    cases read
  | ok text =>
    rw [found] at read
    obtain rfl : text = source := Option.some.inj read
    dsimp only
    rw [Action.result_ofExcept]

theorem ofText_of_lines {facts : Table Value} {executable path source : String} {sets : Value.SetOrder}
    {lines : List Statement} (isCode : Script.documentSuffixes.contains (Text.lower (Path.suffix path)) = false)
    (parsed : Statement.ofText source = .ok lines) :
    Script.ofText (.ofLines executable sets facts) path source = .ok (.ofLines sets path lines) := by
  rw [Script.ofText, isCode, if_neg Bool.false_ne_true]
  change Script.ofCalls (Reader.ofLines sets) path source = _
  rw [Script.ofCalls, Reader.ofLines, parsed]
  rfl

theorem twoForms_lines : LoadsLines plainly twoForms "/s.py" twoLines :=
  have parsed : Statement.ofText twoLinesText = .ok twoLines := isTwoLines_iff.mp (by decide +kernel)
  have read : ((Host.readText (Path.normal "/s.py")).result twoForms).1.toOption = some twoLinesText := by
    decide +kernel
  have isCode : Script.documentSuffixes.contains (Text.lower (Path.suffix (Path.normal "/s.py"))) = false := by
    decide +kernel
  ⟨rfl, (load_of_text read).trans (ofText_of_lines isCode parsed)⟩

theorem twoForms_loads : Loads plainly twoForms "/s.yaml" twoInstructions := by
  have loaded : isTwoInstructions ((Script.load plainly "/s.yaml").result twoForms).1 = true := by decide +kernel
  refine ⟨rfl, ?_⟩
  change ((Script.load plainly "/s.yaml").result twoForms).1 = _
  unfold isTwoInstructions at loaded
  split at loaded
  · next found =>
    simp only [Bool.and_eq_true, beq_iff_eq] at loaded
    obtain ⟨⟨⟨⟨⟨rfl, rfl⟩, rfl⟩, rfl⟩, rfl⟩, rfl⟩ := loaded
    exact found
  · cases loaded

theorem twoLines_mean : List.Forall₂ (Means ⟨"/s.py", ∅, .asPut⟩) twoLines twoInstructions :=
  .cons (.resource rfl rfl rfl rfl (.mapping rfl) rfl) (.cons (.block rfl rfl rfl ⟨trivial, trivial, trivial⟩) .nil)

/-- The second call raises in either form, and both runs end with one failure and the same resource. -/
theorem run_eitherForm_twoForms : raisingAtBlocks.Answer blockRaises anyPast ∧ anyPast [] twoForms ∧
    LoadsLines plainly twoForms "/s.py" twoLines ∧ Loads plainly twoForms "/s.yaml" twoInstructions ∧
    List.Forall₂ (Means ⟨"/s.py", ∅, .asPut⟩) twoLines twoInstructions ∧
    ∃ after ended : Run Host,
      ((⟨raisingAtBlocks, .default, plainly⟩ : Session Host).run "/s.py" []).result ⟨.empty, twoForms⟩ =
        (.ok 1, after) ∧
      ((⟨raisingAtBlocks, .default, plainly⟩ : Session Host).run "/s.yaml" []).result ⟨.empty, twoForms⟩ =
        (.ok 1, ended) ∧
      after.ledger.resources = ended.ledger.resources ∧
      after.ledger.resources.map Resource.display = ["Notify[b]"] := by
  have told : ∀ ended : Except Fault Nat × Run Host,
      ((⟨raisingAtBlocks, .default, plainly⟩ : Session Host).run "/s.py" []).result ⟨.empty, twoForms⟩ = ended →
      (ended.1.toOption, ended.2.ledger.resources.map Resource.display) = (some 1, ["Notify[b]"]) := by
    rintro _ rfl
    decide +kernel
  have seen : anyPast [] twoForms := rfl
  obtain ⟨calls, outcome, failures, last, n, after, ended, -, run, run', -, -, same, -⟩ :=
    (⟨raisingAtBlocks, .default, plainly⟩ : Session Host).run_eitherForm raisingAtBlocks_answer [] []
      (t := ⟨.empty, twoForms⟩) (u := ⟨.empty, twoForms⟩) twoForms_lines twoForms_loads twoLines_mean seen seen
  obtain ⟨one, managed⟩ := Prod.mk.inj (told _ run)
  have ends : endOf outcome n = .ok 1 := by
    cases ended : endOf outcome n with
    | error fault =>
      rw [ended] at one
      cases one
    | ok m =>
      rw [ended] at one
      exact congrArg _ (Option.some.inj one)
  rw [ends] at run run'
  exact ⟨raisingAtBlocks_answer, seen, twoForms_lines, twoForms_loads, twoLines_mean, after, ended, run, run', same,
    managed⟩

end Session

end Converge
