import Converge.Catalog.Compile
import Converge.Proofs.Finalize
import Converge.Proofs.Wording

/-!
# What stops a judgement

A resource or a block of code that is not accepted is refused by a catalog. All that stops the judgement otherwise is
a number too long to be shown, an infinite status or a scalar of a document that says something impossible, and
resources and blocks without these are usual (`answers_validateResource`, `answers_finalize`, `answers_compile`).
-/

namespace Converge

/-! ## Usual resources -/

def Value.IsShown (v : Value) : Prop := v.display?.isSome = true

theorem Value.isShown_iff {v : Value} : v.IsShown ↔ ∃ s, v.shown = .ok s := by
  rw [IsShown, shown]
  cases v.display? <;> simp

/-- A value with a text of its own also has one as the only item of a list. -/
theorem Value.IsShown.singleton {v : Value} (shown : v.IsShown) : (list none [v]).IsShown := by
  -- Only a text and a time are shown on their own otherwise than inside a list, and there nothing stops them.
  have literal : ∃ s, literalIn? [] v = some s := by
    cases v with
    | text t => exact ⟨_, rfl⟩
    | date share d => exact ⟨_, rfl⟩
    | moment share m => exact ⟨_, rfl⟩
    | _ => exact Option.isSome_iff_exists.mp shown
  obtain ⟨s, shown⟩ := literal
  have listed : literalIn? [] (list none [v]) = some (bracketed "[" "]" false [s]) := by
    simp [literalIn?, literalsIn?, shown]
  exact Option.isSome_iff_exists.mpr ⟨_, listed⟩

/-- The parameters of which the value is shown where it is not accepted. -/
def judgedParameters : List String := ["noop", "ensure", "mode", "creates", "returns"]

/-- What a refusal of a resource would show of it has a text, and none of its statuses is infinite. -/
structure Resource.IsUsual (r : Resource) : Prop where
  judged : ∀ name ∈ judgedParameters, ∀ v, r.param? name = some v → v.IsShown
  finite : ∀ v ∈ (ResourceType.givenReturns r).items?.getD [], ∀ negative, v ≠ .float (.infinite negative)

/-- A fault is that of a catalog, or one that stops the judgement of what is not usual. -/
def Fault.Answers (usual : Prop) : Fault → Prop
  | .catalog _ => True
  | .longNumber | .infiniteStatus | .document _ => ¬ usual
  | _ => False

theorem Fault.Answers.mono {usual more : Prop} {fault : Fault} (answers : fault.Answers usual) (weaker : more → usual) :
    fault.Answers more := by
  cases fault with
  | longNumber => exact fun all => answers (weaker all)
  | infiniteStatus => exact fun all => answers (weaker all)
  | document impossible => exact fun all => answers (weaker all)
  | _ => exact answers

/-- A fault that is not that of a catalog tells that something is not usual. -/
theorem Fault.Answers.unusual {usual : Prop} {fault : Fault} (answers : fault.Answers usual)
    (other : ∀ refusal, fault ≠ .catalog refusal) : ¬ usual := by
  cases fault with
  | catalog refusal => exact absurd rfl (other refusal)
  | longNumber => exact answers
  | infiniteStatus => exact answers
  | document impossible => exact answers
  | _ => exact absurd answers id

theorem answers_catalog {usual : Prop} (refusal : CatalogFault) : (Fault.catalog refusal).Answers usual := trivial

theorem answers_mono {α : Type} {usual more : Prop} {x : Except Fault α} (answers : Fails (Fault.Answers usual) x)
    (weaker : more → usual) : Fails (Fault.Answers more) x := fun fault refused => (answers fault refused).mono weaker

theorem answers_shown {usual : Prop} {v : Value} (shown : usual → v.IsShown) : Fails (Fault.Answers usual) v.shown := by
  intro fault refused
  have unshown (all : usual) : False := by
    obtain ⟨s, same⟩ := Value.isShown_iff.mp (shown all)
    rw [same] at refused
    cases refused
  rw [Value.shown] at refused
  split at refused
  · cases refused
  · cases refused
    exact unshown

/-- A refusal that shows a value. -/
theorem answers_refusal {α : Type} {usual : Prop} {v : Value} (shown : usual → v.IsShown)
    (cause : String → CatalogFault) :
    Fails (Fault.Answers usual) (do throw (.catalog (cause (← v.shown))) : Except Fault α) :=
  .bind (answers_shown shown) fun s => .error (answers_catalog (cause s))

/-! ## Resources -/

namespace ResourceType

variable (r : Resource)

theorem fails_get {P : Fault → Prop} (refusals : ∀ refusal, P (.catalog refusal)) (name : String) :
    Fails P (get name) := by
  rw [get]
  split
  · exact .ok _
  · exact .error (refusals _)

variable {r} in
theorem shown_param (usual : r.IsUsual) {name : String} (judged : name ∈ judgedParameters) {fallback : Value}
    (shown : fallback.IsShown) : ((r.param? name).getD fallback).IsShown := by
  cases given : r.param? name with
  | none => exact shown
  | some v => exact usual.judged name judged v given

theorem answers_validateCommon (t : ResourceType) : Fails (Fault.Answers r.IsUsual) (t.validateCommon r) := by
  unfold validateCommon
  split
  · exact .error (answers_catalog _)
  · split
    · exact .ok _
    · exact .ok _
    · exact .ok _
    · next v _ _ given => exact answers_refusal (fun usual => usual.judged "noop" (by decide) v given) _

theorem answers_modeOf : Fails (Fault.Answers r.IsUsual) (modeOf r) := by
  have invalid (v : Value) (given : r.param? "mode" = some v) : Fails (Fault.Answers r.IsUsual) (α := Option Nat) (do
      throw (.catalog (.invalidMode r.display (← v.shown)))) :=
    answers_refusal (fun usual => usual.judged "mode" (by decide) v given) _
  unfold modeOf
  split
  · exact .ok _
  · exact .ok _
  · next given => exact .ite (.ok _) (invalid _ given)
  · next given =>
    split
    · exact .ok _
    · exact invalid _ given
  · next given => exact invalid _ given

theorem answers_validateFile : Fails (Fault.Answers r.IsUsual) (validateFile r) := by
  have mode : Fails (Fault.Answers r.IsUsual) (α := Unit) (do let _ ← modeOf r) :=
    .bind (answers_modeOf r) fun _ => .ok _
  have shown (usual : r.IsUsual) : (ensureOf r).IsShown := shown_param usual (by decide) rfl
  -- Each check comes once after the one before it has refused and once after it has not.
  refine .ite (.bind (.error (answers_catalog _)) fun _ => ?_) ?_
  all_goals
  · refine .ite (.bind (answers_shown shown) fun s => .bind (.error (answers_catalog _)) fun _ => ?_) ?_
    all_goals
    · split
      · exact mode
      · exact mode
      · exact .bind (.error (answers_catalog _)) fun _ => mode

/-- Statuses are read of values, the first of which that is none stops the reading. -/
theorem answers_statusesOf {usual : Prop} (vs : List Value)
    (finite : usual → ∀ v ∈ vs, ∀ negative, v ≠ .float (.infinite negative)) :
    Fails (Fault.Answers usual) (statusesOf vs) := by
  induction vs with
  | nil => exact .ok _
  | cons v vs ih =>
    have later := ih fun all w member => finite all w (by simp [member])
    refine .bind ?_ fun status => ?_
    · unfold statusOf
      split
      · exact .ok _
      · exact .ok _
      · next negative => exact .error fun all => finite all _ (by simp) negative rfl
      · exact .ok _
      · exact .ok _
      · exact .ok _
      · exact .ok _
    · split
      · exact .ok _
      · exact .bind later fun _ => .ok _

theorem shown_givenReturns {r : Resource} (usual : r.IsUsual) : (givenReturns r).IsShown := by
  unfold givenReturns
  split
  · rw [Value.IsShown]
    decide
  · next given => exact usual.judged "returns" (by decide) _ given
  · next given => exact (usual.judged "returns" (by decide) _ given).singleton

theorem answers_returnsOf : Fails (Fault.Answers r.IsUsual) (returnsOf r) := by
  refine .bind (answers_statusesOf _ Resource.IsUsual.finite) fun found => ?_
  split
  · exact .ok _
  · exact answers_refusal shown_givenReturns _

theorem answers_validateExec : Fails (Fault.Answers r.IsUsual) (validateExec r) := by
  have statuses : Fails (Fault.Answers r.IsUsual) (α := Unit) (do let _ ← returnsOf r) :=
    .bind (answers_returnsOf r) fun _ => .ok _
  have shown (usual : r.IsUsual) : (createsOf r).IsShown := shown_param usual (by decide) rfl
  have path : Fails (Fault.Answers r.IsUsual) (do
      let shown ← (createsOf r).shown
      if !Path.isAbsolute shown then throw (.catalog (.relativeCreates r.display shown))
      let _ ← returnsOf r) :=
    .bind (answers_shown shown) fun s => .ite (.bind (.error (answers_catalog _)) fun _ => statuses) statuses
  -- The path and the statuses are checked once after each of the ways to check the command.
  unfold validateExec
  dsimp only
  split
  · refine .ite (.bind (.error (answers_catalog _)) fun _ => ?_) ?_
    all_goals
    · split
      · exact statuses
      · exact path
  · refine .bind (.error (answers_catalog _)) fun _ => ?_
    split
    · exact statuses
    · exact path

theorem answers_validateResource : Fails (Fault.Answers r.IsUsual) (validateResource r) := by
  refine .bind (fails_get answers_catalog _) fun type => .bind (answers_validateCommon r type) fun _ => ?_
  cases type with
  | file => exact answers_validateFile r
  | exec => exact answers_validateExec r
  | _ => exact .ok ()

end ResourceType

/-! ## Catalogs -/

namespace Catalog

variable {usual : Prop}

theorem answers_target (c : Catalog) (r : Resource) (item : Value) : Fails (Fault.Answers usual) (c.target r item) := by
  unfold target
  split
  · exact .error (answers_catalog _)
  · split
    · exact .error (answers_catalog _)
    · exact .ite (.ok _) (.error (answers_catalog _))

theorem answers_relate (c : Catalog) (deps : Table (List String)) (r : Resource) :
    Fails (Fault.Answers r.IsUsual) (c.relate deps r) :=
  .bind (ResourceType.answers_validateResource r) fun _ => .bind (.mapM _ (c.answers_target r)) fun _ =>
    .bind (.mapM _ (c.answers_target r)) fun _ => .ok _

theorem answers_sort (c : Catalog) (deps : Table (List String)) : Fails (Fault.Answers usual) (c.sort deps) :=
  .ite (.ok _) (.error (answers_catalog _))

def IsUsual (c : Catalog) : Prop := ∀ r ∈ c.declared, r.IsUsual

theorem answers_finalize (c : Catalog) : Fails (Fault.Answers c.IsUsual) c.finalize.1 := by
  have related : Fails (Fault.Answers c.IsUsual) c.relations :=
    .foldlMOf _ _ fun deps r member => answers_mono (c.answers_relate deps r) fun all => all r member
  unfold finalize
  split
  · next fault refused => exact .error (related fault refused)
  · next deps _ =>
    dsimp only
    split
    · next fault refused => exact .error (answers_sort { c with dependencies := deps } deps fault refused)
    · exact .ok ()

section

variable {P : Fault → Prop} (refusals : ∀ refusal, P (.catalog refusal))

include refusals

theorem fails_extend (c : Catalog) (r : Resource) : Fails P (c.extend r) := by
  rw [extend]
  by_cases known : r.display ∈ c.resources.keys
  · rw [add_of_mem known]
    exact .error (refusals _)
  · rw [add_of_not_mem known]
    exact .ok _

theorem fails_addEntry (typeName : String) (c : Catalog) {e : Value × Value} (key : Fails P e.1.shown) :
    Fails P (addEntry typeName c e) := by
  refine .bind key fun name => ?_
  split
  · exact .error (refusals _)
  · exact fails_extend refusals c _

theorem fails_addType (c : Catalog) (typeName : String) {entries : Value}
    (keys : ∀ named, entries.entries? = some named → ∀ e ∈ named, Fails P e.1.shown) :
    Fails P (c.addType typeName entries) := by
  refine .bind (ResourceType.fails_get refusals _) fun _ => ?_
  split
  · exact .ok _
  · next given => exact .foldlMOf _ _ fun c e member => fails_addEntry refusals typeName c (keys _ given e member)
  · exact .error (refusals _)

/-- What stops the entries of a document is a refusal, or it keeps a key that is looked at from being shown. -/
theorem fails_addTypes (c : Catalog) {entries : List (Value × Value)}
    (keys : ∀ e ∈ entries, Fails P e.1.shown ∧ ∀ typeName, e.1.shown = .ok typeName →
      typeName.toList.head? ≠ some '@' → ∀ named, e.2.entries? = some named → ∀ e' ∈ named, Fails P e'.1.shown) :
    Fails P (c.addTypes entries).2 := by
  induction entries generalizing c with
  | nil => exact .ok c
  | cons e entries ih =>
    obtain ⟨⟨own, named⟩, others⟩ := List.forall_mem_cons.mp keys
    rw [addTypes]
    split
    · next fault refused => exact .error (own fault refused)
    · next typeName shown =>
      split
      · exact ih c others
      · next real =>
        have fails := fails_addType refusals c typeName (named typeName shown fun virtual => by
          obtain ⟨rest, spelled⟩ := List.head?_eq_some_iff.mp virtual
          exact real rest spelled)
        split
        · next fault refused => exact .error (fails fault refused)
        · exact ih _ others

theorem fails_ofValue (node : String) (scaffolding : Bool) {data : Value}
    (keys : ∀ entries, data.entries? = some entries → ∀ e ∈ entries, Fails P e.1.shown ∧
      ∀ typeName, e.1.shown = .ok typeName → typeName.toList.head? ≠ some '@' →
        ∀ named, e.2.entries? = some named → ∀ e' ∈ named, Fails P e'.1.shown) :
    Fails P (ofValue node scaffolding data).2 := by
  unfold ofValue
  dsimp only
  split
  · exact .ok _
  · next given => exact fails_addTypes refusals _ (keys _ given)
  · exact .error (refusals _)

end

/-- A block of code is no document with an impossible scalar, the names in it have texts, and the resources that it
declares are usual. -/
structure IsUsualBlock (sets : Value.SetOrder) (code : Value) : Prop where
  possible : ∀ fault, readCode sets code ≠ .error (.document fault)
  shown : ∀ data entries, readCode sets code = .ok data → data.entries? = some entries → ∀ e ∈ entries,
    e.1.IsShown ∧ ∀ typeName, e.1.shown = .ok typeName → typeName.toList.head? ≠ some '@' →
      ∀ named, e.2.entries? = some named → ∀ n ∈ named, n.1.IsShown
  usual : ∀ node c, (compile sets node true code).2 = .ok c → c.IsUsual

/-- A block of code without a document is refused, unless a scalar in it is impossible. -/
theorem answers_readCode (sets : Value.SetOrder) (code : Value) :
    Fails (Fault.Answers (∀ impossible, readCode sets code ≠ .error (.document impossible))) (readCode sets code) := by
  have kinds : Fails (fun fault => (∃ impossible, fault = .document impossible) ∨ fault.Answers True)
      (readCode sets code) := by
    unfold readCode
    split
    · split
      · exact .ok _
      · next fault _ =>
        split
        · exact .error (.inr (answers_catalog _))
        · exact .error (.inl ⟨fault, rfl⟩)
    · exact .error (.inr (answers_catalog _))
  intro fault refused
  rcases kinds fault refused with ⟨impossible, rfl⟩ | answers
  · exact fun possible => possible impossible refused
  · exact answers.mono fun _ => trivial

theorem answers_compile (sets : Value.SetOrder) (node : String) (code : Value) :
    Fails (Fault.Answers (IsUsualBlock sets code)) (compile sets node true code).2 := by
  have read := answers_mono (answers_readCode sets code) IsUsualBlock.possible
  rw [compile]
  split
  · next fault refused => exact .error (read fault refused)
  · next data found =>
    refine fails_ofValue answers_catalog node true fun entries given e member => ⟨?_, fun typeName type real => ?_⟩
    · exact answers_shown fun all => (all.shown data entries found given e member).1
    · exact fun named inside n listed => answers_shown fun all =>
        (all.shown data entries found given e member).2 typeName type real named inside n listed

end Catalog

theorem answers_catalogOf (node : String) (r : Resource) :
    Fails (Fault.Answers r.IsUsual) (Store.catalogOf node r) := by
  refine .bindOf (Catalog.fails_extend answers_catalog _ r) fun c added => ?_
  have built : Catalog.ofResources node [r] = .ok c := by simp [Catalog.ofResources, added]
  obtain ⟨-, declared⟩ := Catalog.ofResources_declared built
  refine .bind (answers_mono c.answers_finalize fun usual => ?_) fun _ => .ok _
  simpa [Catalog.IsUsual, declared] using usual

end Converge
