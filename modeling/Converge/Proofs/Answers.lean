import Converge.Proofs.Local

/-!
# Answers in this process

Whatever is wrong with a resource or with a block of code is answered: the result has failed and says why
(`calls_answer`). Only what is not usual can stop a call in place of an answer, and then nothing of it was applied.
-/

namespace Converge.Local

open Transaction

variable {σ : Type} [Hosted σ]

/-! ## Results -/

/-- A result for a resource is about that resource, and says why exactly when it failed. -/
def Speaks (r : Resource) (e : Enforcement) : Prop := e.resource = r ∧ (e.failure = none ↔ e.succeeded = true)

omit [Hosted σ] in
theorem gives_enforce (save : Resource → String → Action σ Report) (r : Resource) :
    Gives (Speaks r) (enforce save r) := by
  refine .bind (.any _) fun outcome _ => ?_
  split
  · refine .pure ?_
    unfold judge
    split
    · exact ⟨rfl, by simp [Enforcement.refused]⟩
    · split
      · exact ⟨rfl, by simp [Enforcement.refused]⟩
      · exact ⟨rfl, by simp [Enforcement.success]⟩
  · exact .pure ⟨rfl, by simp [Enforcement.refused]⟩
  · exact .throw _

theorem gives_applyBlock (apply : Applier σ) (sets : Value.SetOrder) (node : String) (noop : Bool) (code : Value) :
    Gives (fun b => b.failures = [] ↔ b.succeeded = true) (applyBlock apply sets node noop code) := by
  refine .bind (.any _) fun outcome _ => ?_
  split
  · exact .pure (by simp [BlockResult.refused])
  · exact .throw _
  · exact .bind (.any _) fun report _ => .bind (.any _) fun _ _ => .pure (by simp [judgeBlock])

/-- Both calls in this process, whatever the resource, the block of code and the state: a result is about what was
called for, it has succeeded exactly when all was applied cleanly, and if not it says why; or a fault is raised
before anything was applied, because the resource or the block is not usual. -/
theorem calls_answer (sets : Value.SetOrder) (node : String) (noop : Bool) (r : Resource) (code : Value) (s : σ) :
    (∃ answer after applications, ((backends sets node noop).enforce r).result s = (answer, after) ∧
      ((watched sets node noop).enforce r).result ⟨s, []⟩ = (answer, ⟨after, applications⟩) ∧
      ((∃ e, answer = .ok e ∧ e.resource = r ∧ (e.succeeded = true ↔ Clean [r] applications) ∧
          (e.failure = none ↔ e.succeeded = true)) ∨
        ∃ fault, answer = .error fault ∧ ¬ r.IsUsual ∧ applications = [] ∧ after = s)) ∧
    ∃ answer after applications, ((backends sets node noop).applyBlock code).result s = (answer, after) ∧
      ((watched sets node noop).applyBlock code).result ⟨s, []⟩ = (answer, ⟨after, applications⟩) ∧
      ((∃ b, answer = .ok b ∧ (b.succeeded = true ↔ ∃ c, (Catalog.compile sets node true code).2 = .ok c ∧
            c.finalize.1 = .ok () ∧ Clean c.declared applications) ∧
          (b.failures = [] ↔ b.succeeded = true)) ∨
        ∃ fault, answer = .error fault ∧ ¬ Catalog.IsUsualBlock sets code ∧ applications = [] ∧
          OnlyLogged s after) := by
  constructor
  · obtain ⟨answer, after, applications, run, succeeds, -, raised⟩ :=
      enforce_result sets node noop r (⟨s, []⟩ : Traced σ Application)
    have plain := watched_enforce sets node noop r (⟨s, []⟩ : Traced σ Application)
    rw [run] at plain
    refine ⟨answer, after, applications, plain, run, ?_⟩
    cases answer with
    | ok e =>
      obtain ⟨own, told⟩ := gives_enforce _ r _ e (congrArg Prod.fst plain)
      exact .inl ⟨e, rfl, own, by simpa using succeeds, told⟩
    | error fault =>
      obtain ⟨unusual, same, none⟩ := raised fault rfl
      exact .inr ⟨fault, rfl, unusual, none, same⟩
  · obtain ⟨answer, after, applications, run, succeeds, -, raised⟩ :=
      applyBlock_result sets node noop code (⟨s, []⟩ : Traced σ Application)
    have plain := watched_applyBlock sets node noop code (⟨s, []⟩ : Traced σ Application)
    rw [run] at plain
    refine ⟨answer, after, applications, plain, run, ?_⟩
    cases answer with
    | ok b =>
      have told := gives_applyBlock _ sets node noop code _ b (congrArg Prod.fst plain)
      exact .inl ⟨b, rfl, by simpa using succeeds, told⟩
    | error fault =>
      obtain ⟨unusual, logged, none⟩ := raised fault rfl
      exact .inr ⟨fault, rfl, unusual, none, logged⟩

/-- A command whose statuses are none. -/
def wrongReturns : Resource := ⟨{ type := "exec", name := "/bin/true" }, Table.ofList [("returns", .text "none")]⟩

theorem isUsual_wrongReturns : wrongReturns.IsUsual where
  judged := by
    intro name _ v given
    obtain ⟨rfl, rfl⟩ : name = "returns" ∧ v = .text "none" := by
      simpa [wrongReturns, Table.ofList, Table.insertAll, Table.insert, Table.empty, insertIn] using
        Table.get?_eq_some.mp given
    exact rfl
  finite := by
    have given : ResourceType.givenReturns wrongReturns = .list none [.text "none"] := rfl
    simp [given, Value.items?]

theorem isUsualBlock_null : Catalog.IsUsualBlock .asPut .null where
  possible fault refused := by cases refused
  shown data entries found := by cases found
  usual node c compiled := by cases compiled

/-- A command whose statuses are none, and a block of code that is no text, are answered. -/
theorem calls_answer_wrongReturns : wrongReturns.IsUsual ∧ Catalog.IsUsualBlock .asPut .null ∧
    (∃ e after, ((backends .asPut defaultNode false).enforce wrongReturns).result Host.bare = (.ok e, after) ∧
      e.succeeded = false ∧ e.failure = some "Exec[/bin/true]: Invalid returns '['none']'") ∧
    ∃ b after, ((backends .asPut defaultNode false).applyBlock .null).result Host.bare = (.ok b, after) ∧
      b.succeeded = false ∧ b.failures = ["Code block must be text, not NoneType"] := by
  have failure : (((backends .asPut defaultNode false).enforce wrongReturns).result Host.bare).1.toOption.bind
      Enforcement.failure = some "Exec[/bin/true]: Invalid returns '['none']'" := by decide +kernel
  have failures : (((backends .asPut defaultNode false).applyBlock .null).result Host.bare).1.toOption.map
      BlockResult.failures = some ["Code block must be text, not NoneType"] := by decide +kernel
  obtain ⟨⟨_, after, _, run, -, answered⟩, ⟨_, after', _, run', -, answered'⟩⟩ :=
    calls_answer .asPut defaultNode false wrongReturns .null Host.bare
  rw [run] at failure
  rw [run'] at failures
  refine ⟨isUsual_wrongReturns, isUsualBlock_null, ?_, ?_⟩
  · obtain ⟨e, rfl, -, -, told⟩ | ⟨_, -, unusual, -⟩ := answered
    · have told' : e.failure = some _ := failure
      exact ⟨e, after, run, by simpa [told'] using told, told'⟩
    · exact absurd isUsual_wrongReturns unusual
  · obtain ⟨b, rfl, -, told⟩ | ⟨_, -, unusual, -⟩ := answered'
    · have told' : b.failures = _ := Option.some.inj failures
      exact ⟨b, after', run', by simpa [told'] using told, told'⟩
    · exact absurd isUsualBlock_null unusual

/-- A command one of whose statuses is infinite. -/
def infiniteReturns : Resource :=
  ⟨{ type := "exec", name := "/bin/true" }, Table.ofList [("returns", .float (.infinite false))]⟩

/-- An infinite status stops the call for a command. -/
theorem enforce_infiniteReturns :
    ((backends .asPut defaultNode false).enforce infiniteReturns).result Host.bare =
      (.error .infiniteStatus, Host.bare) := rfl

end Converge.Local
