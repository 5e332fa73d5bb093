import Mathlib.Data.List.Forall2
import Converge.Proofs.PlainText
import Converge.Session

/-!
# The calls of a script

An instruction makes a request, unless its resource cannot be built or its block cannot be written as
text (`perform_eq`). A request is one call of a backend, once it is announced, and what the session makes
of the call depends on nothing but its answer and the options (`carryOut_result`). A script is then a
course of calls that ends where a fault or a verdict stops it (`evaluate_course`).
-/

namespace Converge

/-! ## Requests and calls -/

/-- What an instruction asks of a backend. -/
inductive Request where
  | resource (r : Resource)
  | block (code : Value)

/-- The request that an instruction makes, or why it makes none. -/
def Instruction.request : Instruction → Except Fault Request
  | .resource type name params =>
    let entries := (params.map fun p => p.entries.map fun e => (Value.text e.1, e.2)).getD []
    ((Resource.build (.text type) (.text name) (.map none entries)).map Request.resource).mapError .invalid
  | .block (.text code) => .ok (.block (.text code))
  | .block (.mapping entries) =>
    ((Document.dump (Code.mapping entries).toValue).map fun code => Request.block (.text code)).mapError .document

namespace Request

/-- What is said before a request is made. -/
def announcement : Request → String
  | resource r => "Enforcing " ++ r.display
  | block _ => "Running code block"

def announce (options : Options) (asBytes : Bool) (q : Request) : Except Fault Unit :=
  if options.verbose then Console.takes asBytes q.announcement else .ok ()

end Request

/-- A call of a backend and its answer. -/
inductive Call where
  | resource (r : Resource) (answer : Except Fault Enforcement)
  | block (code : Value) (answer : Except Fault BlockResult)

/-- What a session makes of an answer: whether it is a success, the messages of a failure, the
resources, the form for inspection and the fault with which a failure stops a script. -/
structure Reply where
  succeeded : Bool
  messages : List String
  resources : List Resource
  literal : Except Fault String
  stop : Fault

/-- The reply for a resource: a failure has its message, or the usual one when that says nothing. -/
def Enforcement.reply (r : Resource) (e : Enforcement) : Reply where
  succeeded := e.succeeded
  messages := [match e.failure with
    | some message => if message = "" then "Failed enforcing " ++ r.display else message
    | none => "Failed enforcing " ++ r.display]
  resources := [e.resource]
  literal := e.literal
  stop := .enforcement r.display

/-- The reply for a block: a failure has all its messages, or the usual one when there is none. -/
def BlockResult.reply (b : BlockResult) : Reply where
  succeeded := b.succeeded
  messages := if b.failures.isEmpty then ["Failed applying code block"] else b.failures
  resources := b.resources
  literal := b.literal
  stop := .blockEnforcement

namespace Call

/-- What was asked for. -/
def request : Call → Request
  | resource r _ => .resource r
  | block code _ => .block code

def reply : Call → Except Fault Reply
  | resource r answer => answer.map (Enforcement.reply r)
  | block _ answer => answer.map BlockResult.reply

end Call

namespace Reply

/-- The script goes on after a success, and after a failure if it is to keep going. -/
def goesOn (y : Reply) (options : Options) : Bool := y.succeeded || options.keepGoing

def shown (y : Reply) (options : Options) : Except Fault Unit :=
  if options.debug then y.literal.map fun _ => () else .ok ()

/-- What becomes of the script after a reply. -/
def verdict (y : Reply) (options : Options) : Except Fault Unit := do
  y.shown options
  if y.goesOn options then .ok () else .error y.stop

def failures (y : Reply) : List String := if y.succeeded then [] else y.messages

/-- The resources that a reply leaves. -/
def managed (y : Reply) (options : Options) : List Resource := if y.goesOn options then y.resources else []

/-- The ledger after a reply. -/
def note (options : Options) (l : Ledger) (y : Reply) : Ledger :=
  ⟨l.errors ++ y.failures, l.resources ++ y.managed options⟩

end Reply

namespace Call

/-- What becomes of the script after a call. -/
def verdict (c : Call) (options : Options) : Except Fault Unit := do (← c.reply).verdict options

/-- The reply that is recorded: none when the call raised or its answer could not be shown. -/
def recorded? (options : Options) (c : Call) : Option Reply :=
  match c.reply with
  | .error _ => none
  | .ok y => if (y.shown options).toOption.isSome then some y else none

/-- The ledger after some calls. -/
def noteAll (options : Options) (l : Ledger) (calls : List Call) : Ledger :=
  (calls.filterMap (recorded? options)).foldl (Reply.note options) l

theorem noteAll_cons (options : Options) (l : Ledger) (c : Call) (calls : List Call) :
    noteAll options l (c :: calls) = noteAll options (noteAll options l [c]) calls := by
  rw [noteAll, noteAll, noteAll, ← List.foldl_append, ← List.filterMap_append]
  rfl

end Call

/-- From one state to another only what a console shows has changed, and it is of the same kind. -/
def Shown {σ : Type} [Hosted σ] (w v : σ) : Prop :=
  ∃ c : Console, c.asBytes = (Hosted.host w).console.asBytes ∧
    v = Hosted.withHost w { Hosted.host w with console := c }

namespace Shown

variable {σ : Type} [Hosted σ]

instance : Std.Refl (Shown (σ := σ)) := ⟨fun w => ⟨(Hosted.host w).console, rfl, (Hosted.withHost_host w).symm⟩⟩

instance : IsTrans σ Shown := by
  refine ⟨fun w v u ⟨c, kind, same⟩ ⟨d, kind', same'⟩ => ⟨d, ?_, ?_⟩⟩
  · rw [kind', same, Hosted.host_withHost]
    exact kind
  · rw [same', same, Hosted.host_withHost, Hosted.withHost_withHost]

theorem asBytes {w v : σ} (shown : Shown w v) :
    (Hosted.host v).console.asBytes = (Hosted.host w).console.asBytes := by
  obtain ⟨c, kind, rfl⟩ := shown
  rw [Hosted.host_withHost]
  exact kind

theorem files {w v : σ} (shown : Shown w v) : (Hosted.host v).files = (Hosted.host w).files := by
  obtain ⟨c, -, rfl⟩ := shown
  rw [Hosted.host_withHost]

theorem cwd {w v : σ} (shown : Shown w v) : (Hosted.host v).cwd = (Hosted.host w).cwd := by
  obtain ⟨c, -, rfl⟩ := shown
  rw [Hosted.host_withHost]

theorem launcher {w v : σ} (shown : Shown w v) : (Hosted.host v).launcher = (Hosted.host w).launcher := by
  obtain ⟨c, -, rfl⟩ := shown
  rw [Hosted.host_withHost]

theorem log (level : Level) (message : String) (w : σ) : Shown w ((Action.log level message).result w).2 :=
  ⟨(Hosted.host w).console.log level message, Console.asBytes_log _ _ _, rfl⟩

theorem printError (text : String) (w : σ) : Shown w ((Action.printError text).result w).2 :=
  ⟨(Hosted.host w).console.printError text, rfl, rfl⟩

theorem print (text : String) (w : σ) : Shown w ((Action.print text).result w).2 := by
  rw [Action.result_print]
  split
  · exact ⟨{ (Hosted.host w).console with out := (Hosted.host w).console.out ++ Console.lineOf text }, rfl, rfl⟩
  · exact Std.Refl.refl w

end Shown

/-- What is said of states after some requests holds whatever is shown there. -/
def Stays {σ : Type} [Hosted σ] (seen : List Request → σ → Prop) : Prop :=
  ∀ before w v, seen before w → Shown w v → seen before v

/-- Backends that put one entry for each call on the record, and only sound ones. What states there may be after
some requests is given by `seen`. -/
structure Records {σ ε : Type} [Hosted σ] (call : ε → Call) (sound : ε → Prop) (seen : List Request → σ → Prop)
    (b : Backends (Traced σ ε)) : Prop where
  enforce : ∀ {before} r t, seen before t.world → ∃ answer world e,
    (b.enforce r).result t = (answer, ⟨world, t.trace ++ [e]⟩) ∧ call e = .resource r answer ∧ sound e ∧
      seen (before ++ [.resource r]) world
  applyBlock : ∀ {before} code t, seen before t.world → ∃ answer world e,
    (b.applyBlock code).result t = (answer, ⟨world, t.trace ++ [e]⟩) ∧ call e = .block code answer ∧ sound e ∧
      seen (before ++ [.block code]) world
  stays : Stays seen

namespace Session

variable {σ ε : Type} [Hosted σ]

/-! ## One instruction -/

omit [Hosted σ] in
@[simp] theorem result_record (f : Ledger → Ledger) (t : Run σ) :
    (record f).result t = (.ok (), { t with ledger := f t.ledger }) := rfl

/-- Something may have been shown, but no call was made and nothing recorded. -/
structure Quiet (t after : Run (Traced σ ε)) : Prop where
  ledger : after.ledger = t.ledger
  trace : after.world.trace = t.world.trace
  shown : Shown t.world.world after.world.world

theorem Quiet.refl (t : Run (Traced σ ε)) : Quiet t t := ⟨rfl, rfl, Std.Refl.refl t.world.world⟩

def printsBytes (t : Run (Traced σ ε)) : Bool := (Hosted.host t).console.asBytes

theorem print_result (text : String) (t : Run (Traced σ ε)) : ∃ after,
    (Action.print text).result t = (Console.takes (printsBytes t) text, after) ∧ Quiet t after := by
  rw [Action.result_print, printsBytes]
  cases Console.takes (Hosted.host t).console.asBytes text with
  | error fault => exact ⟨t, rfl, .refl t⟩
  | ok done =>
    let shown : Console :=
      { (Hosted.host t).console with out := (Hosted.host t).console.out ++ Console.lineOf text }
    exact ⟨_, rfl, rfl, rfl, shown, rfl, rfl⟩

theorem printIf_result (asked : Bool) (text : Except Fault String) (t : Run (Traced σ ε)) : ∃ after,
    (printIf asked text).result t = (if asked then text.bind (Console.takes (printsBytes t)) else .ok (), after) ∧
      Quiet t after := by
  cases asked with
  | false => exact ⟨t, rfl, .refl t⟩
  | true =>
    cases text with
    | error fault => exact ⟨t, rfl, .refl t⟩
    | ok s => exact print_result s t

theorem announce_result (options : Options) (q : Request) (t : Run (Traced σ ε)) : ∃ after,
    (printIf options.verbose (.ok q.announcement)).result t = (q.announce options (printsBytes t), after) ∧
      Quiet t after := printIf_result options.verbose (.ok q.announcement) t

/-- What a session does with a reply. -/
def conclude (s : Session σ) (y : Reply) : Action (Run σ) Unit := do
  printIf s.options.debug y.literal
  if !y.succeeded then do
    record (·.recordFailures y.messages)
    if !s.options.keepGoing then throw y.stop
  record (·.recordResources y.resources)

theorem conclude_result (s : Session (Traced σ ε)) (y : Reply) (plain : ∀ text, y.literal = .ok text → Text.Plain text)
    (t : Run (Traced σ ε)) : ∃ after,
      (s.conclude y).result t = (y.verdict s.options, after) ∧ after.world.trace = t.world.trace ∧
      Shown t.world.world after.world.world ∧
      after.ledger = if (y.shown s.options).toOption.isSome then y.note s.options t.ledger else t.ledger := by
  obtain ⟨between, printed, quiet⟩ := printIf_result s.options.debug y.literal t
  have shows : (if s.options.debug then y.literal.bind (Console.takes (printsBytes t)) else .ok ()) =
      y.shown s.options := by
    rw [Reply.shown]
    cases given : y.literal with
    | error fault => rfl
    | ok text => simp [Except.bind, Except.map, Console.takes_of_plain (plain text given)]
  rw [shows] at printed
  rw [conclude]
  cases shown : y.shown s.options with
  | error fault =>
    rw [shown] at printed
    refine ⟨between, ?_, quiet.trace, quiet.shown, quiet.ledger⟩
    rw [Action.result_bind_of_error printed, Reply.verdict, shown]
    rfl
  | ok done =>
    rw [shown] at printed
    rw [Action.result_bind_of_ok printed, Reply.verdict, shown]
    simp only [Except.toOption, Option.isSome_some, if_true, ← quiet.ledger, Reply.note, Reply.failures, Reply.managed,
      Reply.goesOn]
    rcases Bool.eq_false_or_eq_true y.succeeded with succeeded | failed
    · refine ⟨{ between with ledger := between.ledger.recordResources y.resources }, ?_, quiet.trace, quiet.shown, ?_⟩
      · simp only [succeeded]
        rfl
      · simp [succeeded, Ledger.recordResources]
    · rcases Bool.eq_false_or_eq_true s.options.keepGoing with onward | stops
      · refine ⟨{ between with ledger :=
          (between.ledger.recordFailures y.messages).recordResources y.resources }, ?_, quiet.trace, quiet.shown, ?_⟩
        · simp only [failed, onward]
          rfl
        · simp [failed, onward, Ledger.recordResources, Ledger.recordFailures]
      · refine ⟨{ between with ledger := between.ledger.recordFailures y.messages }, ?_, quiet.trace, quiet.shown, ?_⟩
        · simp only [failed, stops]
          rfl
        · simp [failed, stops, Ledger.recordFailures]

theorem conclude_return {α : Type} (s : Session σ) (y : Reply) (x : α) : (do
    s.conclude y
    return x) = (do
      printIf s.options.debug y.literal
      if !y.succeeded then do
        record (·.recordFailures y.messages)
        if !s.options.keepGoing then throw y.stop
      record (·.recordResources y.resources)
      return x : Action (Run σ) α) := by
  simp only [conclude, bind_assoc]
  refine bind_congr fun _ => ?_
  rcases Bool.eq_false_or_eq_true y.succeeded with succeeded | failed
  · simp [succeeded]
  · rcases Bool.eq_false_or_eq_true s.options.keepGoing with onward | stops
    · simp [failed, onward]
    · simp [failed, stops]

theorem enforce_eq (s : Session σ) (r : Resource) : s.enforce r = do
    printIf s.options.verbose (.ok ("Enforcing " ++ r.display))
    let result ← onWorld (s.backends.enforce r)
    s.conclude (result.reply r)
    return result :=
  bind_congr fun _ => bind_congr fun result => (s.conclude_return (result.reply r) result).symm

theorem apply_eq (s : Session σ) (code : Value) : s.apply code = do
    printIf s.options.verbose (.ok "Running code block")
    let result ← s.blockResult code
    s.conclude result.reply
    return result :=
  bind_congr fun _ => bind_congr fun result => (s.conclude_return result.reply result).symm

def carryOut (s : Session σ) (q : Request) : Action (Run σ) Unit := do
  printIf s.options.verbose (.ok q.announcement)
  match q with
  | .resource r => do
    let result ← onWorld (s.backends.enforce r)
    s.conclude (result.reply r)
  | .block code => do
    let result ← onWorld (s.backends.applyBlock code)
    s.conclude result.reply

theorem entriesOf_map (entries : List (Value × Value)) : entriesOf (.map none entries) = .ok entries := by
  cases entries <;> rfl

omit [Hosted σ] in
theorem ofExcept_bind {α β : Type} (x : α) (f : α → Action σ β) :
    (Action.ofExcept (.ok x) : Action σ α) >>= f = f x := rfl

theorem insertEntry_text (key : String) (value : Value) (l : List (String × Value)) :
    Value.insertEntry (.text key) value (l.map fun e => (.text e.1, e.2)) =
      (insertIn key value l).map fun e => (.text e.1, e.2) := by
  induction l with
  | nil => rfl
  | cons e l ih =>
    simp only [List.map_cons, Value.insertEntry, Value.sameKey, beq_iff_eq, insertIn, ih]
    split <;> rfl

/-- What is put into a mapping under texts is put into the table of the mapping. -/
theorem foldl_insertEntry_text (entries : List (String × Value)) (t : Parameters) :
    entries.foldl (fun es e => Value.insertEntry (.text e.1) e.2 es) (t.entries.map fun e => (.text e.1, e.2)) =
      (t.insertAll entries).entries.map fun e => (.text e.1, e.2) := by
  induction entries generalizing t with
  | nil => rfl
  | cons e entries ih =>
    rw [List.foldl_cons, insertEntry_text]
    exact ih (t.insert e.1 e.2)

/-- A call for a resource is that of the instruction with all that the call brings as its parameters. -/
theorem resource_eq (s : Session σ) (type name : String) {params : Value} {own : Parameters}
    (brings : entriesOf params = .ok (own.entries.map fun e => (.text e.1, e.2))) (extra : Table Value) :
    (do
      let _ ← s.resource (.text type) (.text name) params extra
      return ()) =
    match (Instruction.resource type name (some (own.insertAll extra.entries))).request with
    | .error fault => throw fault
    | .ok q => s.carryOut q := by
  simp only [resource, brings, ofExcept_bind, foldl_insertEntry_text, Instruction.request, Option.map_some,
    Option.getD_some]
  generalize Resource.build (.text type) (.text name)
    (.map none ((own.insertAll extra.entries).entries.map fun e => (.text e.1, e.2))) = built
  cases built with
  | error report => rfl
  | ok r =>
    change (s.enforce r >>= fun _ => pure ()) = s.carryOut (.resource r)
    simp [carryOut, enforce_eq, Request.announcement]

/-- A call for a block of code that is a text carries out the request for it. -/
theorem apply_text_eq (s : Session σ) (code : String) :
    (do
      let _ ← s.apply (.text code)
      return ()) = s.carryOut (.block (.text code)) := by
  simp [apply_eq, blockResult, carryOut, Request.announcement]

theorem perform_eq (s : Session σ) (i : Instruction) : s.perform i =
    match i.request with
    | .error fault => throw fault
    | .ok q => s.carryOut q := by
  cases i with
  | resource type name params =>
    cases params with
    | none =>
      have brings : entriesOf .null = .ok ((∅ : Parameters).entries.map fun e => (.text e.1, e.2)) := rfl
      have own := s.resource_eq type name brings ∅
      have same : (Instruction.resource type name (some ((∅ : Parameters).insertAll (∅ : Table Value).entries))).request =
          (Instruction.resource type name none).request := by
        rw [Instruction.request, Instruction.request]
        rfl
      rw [same] at own
      rw [← own]
      rfl
    | some p =>
      have own := s.resource_eq type name (entriesOf_map (p.entries.map fun e => (.text e.1, e.2))) ∅
      have same : p.insertAll (∅ : Table Value).entries = p := rfl
      rw [same] at own
      rw [← own]
      rfl
  | block code =>
    cases code with
    | text code => exact s.apply_text_eq code
    | mapping entries =>
      simp only [perform, Instruction.request]
      cases Document.dump (Code.mapping entries).toValue with
      | error fault => rfl
      | ok code => exact s.apply_text_eq code

/-- A call through a recording backend: the entry has the verdict and leaves its reply. -/
theorem call_result {α : Type} {call : ε → Call} {sound : ε → Prop} {later : σ → Prop} (s : Session (Traced σ ε))
    {a : Action (Traced σ ε) α} (reply : α → Reply)
    (literal : ∀ x text, (reply x).literal = .ok text → Text.Plain text) (describe : Except Fault α → Call)
    (replies : ∀ answer, (describe answer).reply = answer.map reply) (stays : ∀ w v, later w → Shown w v → later v)
    (t : Run (Traced σ ε)) (recorded : ∃ answer world e,
      a.result t.world = (answer, ⟨world, t.world.trace ++ [e]⟩) ∧ call e = describe answer ∧ sound e ∧ later world) :
    ∃ e after answer, call e = describe answer ∧ sound e ∧
      (do
        let x ← onWorld a
        s.conclude (reply x) : Action (Run (Traced σ ε)) Unit).result t = ((call e).verdict s.options, after) ∧
      after.world.trace = t.world.trace ++ [e] ∧
      after.ledger = Call.noteAll s.options t.ledger [call e] ∧ later after.world.world := by
  obtain ⟨answer, world, e, run, described, sounds, seen⟩ := recorded
  have called : (onWorld a).result t = (answer, { t with world := ⟨world, t.world.trace ++ [e]⟩ }) := by
    simp [onWorld, run]
  refine ⟨e, ?_⟩
  rw [Call.verdict, Call.noteAll, List.filterMap_cons, Call.recorded?, described, replies]
  cases answer with
  | error fault =>
    exact ⟨_, _, rfl, sounds, Action.result_bind_of_error called, rfl, rfl, seen⟩
  | ok x =>
    obtain ⟨after, run, sameTrace, quiet, ledger⟩ := s.conclude_result (reply x) (literal x)
      { t with world := ⟨world, t.world.trace ++ [e]⟩ }
    refine ⟨after, _, rfl, sounds, (Action.result_bind_of_ok called).trans run, sameTrace, ?_, stays _ _ seen quiet⟩
    rw [ledger]
    simp only [Except.map]
    split <;> rfl

/-- What a request comes to: it cannot be announced, or else it is one call, whose verdict is that of the session. -/
def Asks (s : Session (Traced σ ε)) (call : ε → Call) (sound : ε → Prop) (seen : List Request → σ → Prop) (q : Request)
    (a : Action (Run (Traced σ ε)) Unit) : Prop :=
  ∀ before t, seen before t.world.world →
    (∃ fault after, q.announce s.options (printsBytes t) = .error fault ∧ a.result t = (.error fault, after) ∧
      Quiet t after) ∨
    q.announce s.options (printsBytes t) = .ok () ∧ ∃ e after, (call e).request = q ∧ sound e ∧
      a.result t = ((call e).verdict s.options, after) ∧ after.world.trace = t.world.trace ++ [e] ∧
      after.ledger = Call.noteAll s.options t.ledger [call e] ∧ seen (before ++ [q]) after.world.world

theorem carryOut_result {call : ε → Call} {sound : ε → Prop} {seen : List Request → σ → Prop}
    (s : Session (Traced σ ε)) (records : Records call sound seen s.backends) (q : Request) :
    s.Asks call sound seen q (s.carryOut q) := by
  intro before t known
  obtain ⟨announced, run, quiet⟩ := announce_result s.options q t
  rw [carryOut.eq_def]
  cases said : q.announce s.options (printsBytes t) with
  | error fault =>
    rw [said] at run
    exact .inl ⟨fault, announced, rfl, Action.result_bind_of_error run, quiet⟩
  | ok done =>
    rw [said] at run
    rw [Action.result_bind_of_ok run, ← quiet.ledger, ← quiet.trace]
    have known' := records.stays _ _ _ known quiet.shown
    refine .inr ⟨rfl, ?_⟩
    cases q with
    | resource r =>
      obtain ⟨e, after, answer, described, sounds, run, trace, ledger, left⟩ := s.call_result
        (Enforcement.reply r) (fun _ _ => Enforcement.plain_literal) (.resource r) (fun _ => rfl) (records.stays _)
        announced (records.enforce r announced.world known')
      exact ⟨e, after, by rw [described]; rfl, sounds, run, trace, ledger, left⟩
    | block code =>
      obtain ⟨e, after, answer, described, sounds, run, trace, ledger, left⟩ := s.call_result
        BlockResult.reply (fun _ _ => BlockResult.plain_literal) (.block code) (fun _ => rfl) (records.stays _)
        announced (records.applyBlock code announced.world known')
      exact ⟨e, after, by rw [described]; rfl, sounds, run, trace, ledger, left⟩

/-! ## A course of calls -/

/-- How a script goes after some requests: each instruction is one call, up to the first that makes no request,
cannot be announced in any of the states that there may be, or has a verdict that is a fault. -/
inductive Course (seen : List Request → σ → Prop) (options : Options) :
    List Request → List Instruction → List Call → Except Fault Unit → Prop
  | done {before : List Request} : Course seen options before [] [] (.ok ())
  | refused {before : List Request} {i : Instruction} {is : List Instruction} {fault : Fault}
      (refused : i.request = .error fault) : Course seen options before (i :: is) [] (.error fault)
  | unannounced {before : List Request} {i : Instruction} {is : List Instruction} {q : Request} {fault : Fault} {w : σ}
      (asked : i.request = .ok q) (known : seen before w)
      (unsaid : q.announce options (Hosted.host w).console.asBytes = .error fault) :
      Course seen options before (i :: is) [] (.error fault)
  | ended {before : List Request} {i : Instruction} {is : List Instruction} {c : Call} {fault : Fault} {w : σ}
      (asked : i.request = .ok c.request) (known : seen before w)
      (said : c.request.announce options (Hosted.host w).console.asBytes = .ok ())
      (verdict : c.verdict options = .error fault) : Course seen options before (i :: is) [c] (.error fault)
  | next {before : List Request} {i : Instruction} {is : List Instruction} {c : Call} {calls : List Call}
      {outcome : Except Fault Unit} {w : σ} (asked : i.request = .ok c.request) (known : seen before w)
      (said : c.request.announce options (Hosted.host w).console.asBytes = .ok ())
      (verdict : c.verdict options = .ok ()) (later : Course seen options (before ++ [c.request]) is calls outcome) :
      Course seen options before (i :: is) (c :: calls) outcome

omit [Hosted σ] in
theorem inScript_result (path : String) (a : Action σ Unit) (s : σ) :
    (inScript path a).result s = ((a.result s).1.mapError (asScriptFault path), (a.result s).2) := by
  have tried : a.attempt.result s = (.ok (a.result s).1, (a.result s).2) := rfl
  rw [inScript, Action.result_bind_of_ok tried]
  cases (a.result s).1 <;> rfl

omit [Hosted σ] in
theorem forM_cons {α : Type} (f : α → Action σ Unit) (x : α) (xs : List α) :
    (x :: xs).forM f = f x >>= fun _ => xs.forM f := rfl

omit [Hosted σ] in
theorem forM_inScript {α : Type} (path : String) (f : α → Action (Run σ) Unit) (xs : List α) (t : Run σ) :
    (xs.forM fun x => inScript path (f x)).result t =
      (((xs.forM f).result t).1.mapError (asScriptFault path), ((xs.forM f).result t).2) := by
  induction xs generalizing t with
  | nil => rfl
  | cons x xs ih =>
    have first := inScript_result path (f x) t
    cases outcome : (f x).result t with
    | mk result between =>
      rw [outcome] at first
      cases result with
      | error fault =>
        rw [forM_cons, forM_cons, Action.result_bind_of_error first, Action.result_bind_of_error outcome]
        rfl
      | ok done =>
        rw [forM_cons, forM_cons, Action.result_bind_of_ok first, Action.result_bind_of_ok outcome]
        exact ih between

variable {call : ε → Call} {sound : ε → Prop} {seen : List Request → σ → Prop}

/-- An action goes as an instruction does: it is what the request of the instruction comes to, or it raises what keeps
the instruction from making one. -/
structure Enacts (s : Session (Traced σ ε)) (call : ε → Call) (sound : ε → Prop) (seen : List Request → σ → Prop)
    (i : Instruction) (a : Action (Run (Traced σ ε)) Unit) : Prop where
  refused : ∀ {fault}, i.request = .error fault → ∀ t, ∃ after, a.result t = (.error fault, after) ∧ Quiet t after
  asked : ∀ {q}, i.request = .ok q → s.Asks call sound seen q a

theorem Enacts.of_eq {s : Session (Traced σ ε)} (records : Records call sound seen s.backends) {i : Instruction}
    {a : Action (Run (Traced σ ε)) Unit}
    (same : a = match i.request with
      | .error fault => throw fault
      | .ok q => s.carryOut q) : Enacts s call sound seen i a := by
  constructor
  · intro fault refused t
    rw [same, refused]
    exact ⟨t, rfl, .refl t⟩
  · intro q asked
    rw [same, asked]
    exact s.carryOut_result records q

/-- Actions that go as the instructions of a list take its course, and the ledger has what the calls leave. -/
theorem forM_course {α : Type} {s : Session (Traced σ ε)} {f : α → Action (Run (Traced σ ε)) Unit} {xs : List α}
    {is : List Instruction} (enacts : List.Forall₂ (fun x i => Enacts s call sound seen i (f x)) xs is)
    {before : List Request} (t : Run (Traced σ ε)) (known : seen before t.world.world) : ∃ entries outcome after,
      Course seen s.options before is (entries.map call) outcome ∧ (∀ e ∈ entries, sound e) ∧
      (xs.forM f).result t = (outcome, after) ∧ after.world.trace = t.world.trace ++ entries ∧
      after.ledger = Call.noteAll s.options t.ledger (entries.map call) := by
  -- The later actions begin with what the first one leaves, so the state is not fixed.
  induction enacts generalizing before t with
  | nil => exact ⟨[], .ok (), t, .done, by simp, rfl, by simp, rfl⟩
  | @cons x i xs is first later ih =>
    rw [forM_cons]
    cases asked : i.request with
    | error fault =>
      obtain ⟨after, run, quiet⟩ := first.refused asked t
      exact ⟨[], .error fault, after, .refused asked, by simp, Action.result_bind_of_error run, by simp [quiet.trace],
        quiet.ledger⟩
    | ok q =>
      rcases first.asked asked before t known with ⟨fault, after, unsaid, run, quiet⟩ |
        ⟨said, e, between, same, sounds, run, trace, ledger, known'⟩
      · exact ⟨[], .error fault, after, .unannounced asked known unsaid, by simp, Action.result_bind_of_error run,
          by simp [quiet.trace], quiet.ledger⟩
      subst same
      cases verdict : (call e).verdict s.options with
      | error fault =>
        rw [verdict] at run
        exact ⟨[e], .error fault, between, .ended asked known said verdict, by simpa using sounds,
          Action.result_bind_of_error run, trace, ledger⟩
      | ok done =>
        rw [verdict] at run
        obtain ⟨entries, outcome, after, course, sounds', run', trace', ledger'⟩ := ih between known'
        refine ⟨e :: entries, outcome, after, .next asked known said verdict course, by simpa using ⟨sounds, sounds'⟩,
          (Action.result_bind_of_ok run).trans run', ?_, ?_⟩
        · rw [trace', trace, List.append_assoc]
          rfl
        · rw [ledger', ledger]
          exact (Call.noteAll_cons _ _ _ _).symm

/-- A script at a path goes as some instructions do: its calls take their course, and the ledger has what they
leave. -/
def TakesCourse (s : Session (Traced σ ε)) (call : ε → Call) (sound : ε → Prop) (seen : List Request → σ → Prop)
    (path : String) (script : Script) (is : List Instruction) : Prop :=
  ∀ (before : List Request) (t : Run (Traced σ ε)), seen before t.world.world → ∃ entries outcome after,
    Course seen s.options before is (entries.map call) outcome ∧ (∀ e ∈ entries, sound e) ∧
    (s.evaluate script).result t = (outcome.mapError (asScriptFault path), after) ∧
    after.world.trace = t.world.trace ++ entries ∧
    after.ledger = Call.noteAll s.options t.ledger (entries.map call)

/-- A script of instructions takes their course. -/
theorem evaluate_course (s : Session (Traced σ ε)) (records : Records call sound seen s.backends) (path : String)
    (is : List Instruction) : TakesCourse s call sound seen path (.instructions path is) is := by
  intro before t known
  have enacts : List.Forall₂ (fun i j => Enacts s call sound seen j (s.perform i)) is is :=
    List.forall₂_same.mpr fun i _ => .of_eq records (s.perform_eq i)
  obtain ⟨entries, outcome, after, course, sounds, run, left⟩ := forM_course enacts t known
  exact ⟨entries, outcome, after, course, sounds, by rw [evaluate, forM_inScript, run], left⟩

namespace Course

variable {options : Options} {before : List Request} {is : List Instruction} {calls : List Call}
  {outcome : Except Fault Unit}

/-- The calls are those of the first instructions, one for each. -/
theorem asked (course : Course seen options before is calls outcome) :
    (is.take calls.length).map Instruction.request = calls.map fun c => .ok c.request := by
  induction course with
  | done => rfl
  | refused _ => simp
  | unannounced _ _ _ => simp
  | ended asked _ _ _ => simp [asked]
  | next asked _ _ _ _ ih => simpa [asked] using ih

/-- A script goes on after every call but the last. -/
theorem onward (course : Course seen options before is calls outcome) :
    ∀ c ∈ calls.dropLast, c.verdict options = .ok () := by
  induction course with
  | done => simp
  | refused _ => simp
  | unannounced _ _ _ => simp
  | ended _ _ _ _ => simp
  | @next _ i is c calls outcome _ asked _ _ verdict later ih =>
    intro d member
    cases calls with
    | nil => simp at member
    | cons first rest =>
      rw [List.dropLast_cons_cons, List.mem_cons] at member
      rcases member with rfl | member
      · exact verdict
      · exact ih d member

/-- How a course ends: after all instructions, before one that makes no request or that cannot be announced, or with
a call whose verdict is a fault. -/
theorem ending (course : Course seen options before is calls outcome) :
    (outcome = .ok () ∧ calls.length = is.length ∧ ∀ c ∈ calls, c.verdict options = .ok ()) ∨
    (∃ fault i, outcome = .error fault ∧ is[calls.length]? = some i ∧
      (i.request = .error fault ∨ ∃ q w, i.request = .ok q ∧ seen (before ++ calls.map Call.request) w ∧
        q.announce options (Hosted.host w).console.asBytes = .error fault) ∧
      ∀ c ∈ calls, c.verdict options = .ok ()) ∨
    ∃ fault c, outcome = .error fault ∧ calls.getLast? = some c ∧ c.verdict options = .error fault := by
  induction course with
  | done => exact .inl ⟨rfl, rfl, by simp⟩
  | refused refused => exact .inr (.inl ⟨_, _, rfl, rfl, .inl refused, by simp⟩)
  | unannounced asked known unsaid =>
    exact .inr (.inl ⟨_, _, rfl, rfl, .inr ⟨_, _, asked, by simpa using known, unsaid⟩, by simp⟩)
  | ended _ _ _ verdict => exact .inr (.inr ⟨_, _, rfl, rfl, verdict⟩)
  | @next before i is c calls outcome _ asked _ _ verdict later ih =>
    rcases ih with ⟨ended, all, goes⟩ | ⟨fault, i, ended, found, stops, goes⟩ | ⟨fault, d, ended, last, stops⟩
    · exact .inl ⟨ended, by simp [all], by simpa [verdict] using goes⟩
    · exact .inr (.inl ⟨fault, i, ended, by simpa using found, by simpa using stops, by simpa [verdict] using goes⟩)
    · refine .inr (.inr ⟨fault, d, ended, ?_, stops⟩)
      rw [List.getLast?_cons, last]
      rfl

end Course

end Session

end Converge
