import Converge.Proofs.Rendering
import Converge.Proofs.SmallLetters
import Converge.Proofs.Unrelated

/-!
# Resources of unknown types

A resource of a type that is not known is refused, and so is the code that it is rendered to
(`calls_unknownType`), unless the type begins with an `@`: the code then declares virtual resources, which are
passed over, and it succeeds (`applyBlock_virtualFile`).
-/

namespace Converge

open Text

variable {r : Resource} {sets : Value.SetOrder}

/-! ## Types as they are kept -/

theorem Resource.IsBuilt.lower_type (built : r.IsBuilt) : lower r.ref.type = r.ref.type := by
  obtain ⟨type, name, p, built⟩ := built
  obtain ⟨ref, named, given⟩ := bind_eq_ok.mp built
  rw [withParameters_toValue] at given
  obtain rfl := Except.ok.inj given
  obtain ⟨normal, -⟩ := Ref.ofValues?_ok_iff.mp named
  change lower ref.type = ref.type
  rw [normal, Ref.normalType, lower_lower]

theorem ResourceType.get_of_unknown {name : String} (unknown : ∀ t, get name ≠ .ok t) :
    get name = .error (.catalog (.unknownType name)) := by
  rw [get] at unknown ⊢
  cases found : ofName? name with
  | none => rfl
  | some t => exact absurd (by rw [found]) (unknown t)

/-- In code the type stands for virtual resources. -/
def Ref.IsVirtual (ref : Ref) : Prop := ref.type.toList.head? = some '@'

instance (ref : Ref) : Decidable ref.IsVirtual := inferInstanceAs (Decidable (_ = _))

namespace Catalog

variable {code : String}

/-- Code that survives for one resource declares its type. -/
theorem compile_typed (survives : Survives sets [r] code) (node : String) (scaffolding : Bool) : ∃ entries,
    compile sets node scaffolding (.text code) =
      (if scaffolding then scaffold node else empty node).addTypes [(.text r.ref.type, entries)] := by
  obtain ⟨data, loaded, f, -, rfl⟩ := survives.read
  refine ⟨(Value.map none [(.text r.ref.name, r.parameters.toValue)]).renumber f, ?_⟩
  rw [compile_of_load loaded]
  exact ofValue_map node scaffolding [(.text r.ref.type, _)]

theorem addTypes_virtual {ref : Ref} (virtual : ref.IsVirtual) (c : Catalog) (entries : Value) :
    ∃ passed, c.addTypes [(.text ref.type, entries)] = ([passed], .ok c) := by
  obtain ⟨rest, type⟩ := List.head?_eq_some_iff.mp virtual
  refine ⟨String.ofList rest, ?_⟩
  rw [addTypes]
  simp only [show (Value.text ref.type).shown = .ok ref.type from rfl, type]
  rfl

theorem addTypes_unknown {ref : Ref} (real : ¬ ref.IsVirtual) (small : lower ref.type = ref.type)
    (unknown : ∀ t, ResourceType.get ref.type ≠ .ok t) (c : Catalog) (entries : Value) :
    c.addTypes [(.text ref.type, entries)] = ([], .error (.catalog (.unknownType ref.type))) := by
  have refused : c.addType ref.type entries = .error (.catalog (.unknownType ref.type)) := by
    change (ResourceType.get (lower ref.type) >>= fun _ => _) = _
    rw [small, ResourceType.get_of_unknown unknown]
    rfl
  rw [addTypes]
  simp only [show (Value.text ref.type).shown = .ok ref.type from rfl]
  split
  · next rest type => exact absurd (by rw [Ref.IsVirtual, type]; rfl) real
  · rw [refused]

end Catalog

namespace Local

open Transaction

variable {σ : Type} [Hosted σ] {code : String}

/-- A block of code that declares nothing of its own succeeds, and nothing comes of it but records of the log. -/
theorem applyBlock_idle (node : String) (noop : Bool) {passed : List String} {code : Value}
    (compiled : Catalog.compile sets node true code = (passed, .ok (Catalog.scaffold node))) (s : σ) :
    ∃ after, ((backends sets node noop).applyBlock code).result s = (.ok ⟨true, [], []⟩, after) ∧
      OnlyLogged s after := by
  have finalized : (Catalog.scaffold node).finalize = (.ok (), (Catalog.scaffold node).arranged) := by
    rw [Catalog.finalize_unrelated (Catalog.scaffold_unrelated node), Catalog.forM_scaffold]
  obtain ⟨between, skipped⟩ := forM_log .debug (fun type => "Skipping virtual resources of type " ++ type) passed s
  have made : (catalogOf sets node code).result s = (.ok (Catalog.scaffold node).arranged, between) := by
    -- That the catalog is the scaffold plays no part from here on.
    generalize Catalog.scaffold node = c at compiled finalized ⊢
    rw [catalogOf_eq, compiled]
    refine (Action.result_bind_of_ok skipped).trans ?_
    change (Action.ofExcept c.finalize.1 >>= fun _ => pure c.finalize.2 : Action σ Catalog).result between = _
    rw [finalized]
    rfl
  have logged : OnlyLogged s between := by
    have leaves := catalogOf_logs sets node code s
    rwa [made] at leaves
  obtain ⟨report, evaluated, entries⟩ := evaluate_arranged (Catalog.keyed_scaffold node)
    (resources_idle _)
    (foldlM_idle (fun r _ => (Catalog.scaffold node).dependenciesOf_arranged r)
      (fun r member => bring_scaffold noop member) node [] between)
  obtain ⟨last, run, more⟩ := applyBlock_of_catalog made evaluated
  refine ⟨last, ?_, IsTrans.trans _ _ _ logged more⟩
  have none : report.failedStatuses = [] := failedStatuses_eq (by rwa [List.append_nil])
  rw [run, judgeBlock, none]
  exact congrArg (fun own => (Except.ok (BlockResult.mk true [] own), last)) (Catalog.filter_scaffold node)

/-- A resource of a type that is not known fails when it is enforced. The code that it is rendered to fails with the
same message when it is applied, but for a type that stands for virtual resources there: then it succeeds, though
nothing is managed. Either way nothing is done. -/
theorem calls_unknownType {r : Resource} (built : r.IsBuilt) (unknown : ∀ t, ResourceType.get r.ref.type ≠ .ok t)
    (survives : Catalog.Survives sets [r] code) (node : String) (noop : Bool) (s : σ) :
    ((backends sets node noop).enforce r).result s =
      (.ok ⟨false, some (CatalogFault.unknownType r.ref.type).message, r⟩, s) ∧
    (¬ r.ref.IsVirtual → ((backends sets node noop).applyBlock (.text code)).result s =
      (.ok ⟨false, [(CatalogFault.unknownType r.ref.type).message], []⟩, s)) ∧
    (r.ref.IsVirtual → ∃ after, ((backends sets node noop).applyBlock (.text code)).result s =
      (.ok ⟨true, [], []⟩, after) ∧ OnlyLogged s after) := by
  obtain ⟨entries, compiled⟩ := Catalog.compile_typed survives node true
  refine ⟨?_, fun real => ?_, fun virtual => ?_⟩
  · have invalid : ResourceType.validateResource r = .error (.catalog (.unknownType r.ref.type)) := by
      rw [ResourceType.validateResource, ResourceType.get_of_unknown unknown]
      rfl
    rw [enforce_of_fault (Store.catalogOf_of_invalid invalid), unmade]
    rfl
  · rw [if_pos rfl, Catalog.addTypes_unknown real built.lower_type unknown] at compiled
    have stopped : (catalogOf sets node (.text code) : Action σ Catalog).result s =
        (.error (.catalog (.unknownType r.ref.type)), s) := by
      rw [catalogOf_eq, compiled]
      rfl
    rw [applyBlock_of_fault stopped, unmadeBlock]
    rfl
  · obtain ⟨passed, skipped⟩ := Catalog.addTypes_virtual virtual (Catalog.scaffold node) entries
    rw [if_pos rfl, skipped] at compiled
    exact applyBlock_idle node noop compiled s

/-- A resource of a type that is not known. -/
def banana : Resource := ⟨{ type := "banana", name := "x" }, ∅⟩

theorem calls_unknownType_banana : banana.IsBuilt ∧ (∀ t, ResourceType.get banana.ref.type ≠ .ok t) ∧
    Catalog.Survives .asPut [banana] "banana:\n  x: \x7b\x7d\n" ∧ ¬ banana.ref.IsVirtual ∧
    ((backends .asPut "node" true).enforce banana).result Host.bare =
      (.ok ⟨false, some "Unknown resource type: 'banana'", banana⟩, Host.bare) ∧
    ((backends .asPut "node" true).applyBlock (.text "banana:\n  x: \x7b\x7d\n")).result Host.bare =
      (.ok ⟨false, ["Unknown resource type: 'banana'"], []⟩, Host.bare) := by
  have regular : banana.IsRegular := by decide +kernel
  have unknown : ∀ t, ResourceType.get banana.ref.type ≠ .ok t := by rintro _ ⟨⟩
  have survives : Catalog.Survives .asPut [banana] "banana:\n  x: \x7b\x7d\n" :=
    .of_normal (by decide +kernel) (by decide +kernel) (by decide +kernel)
  have real : ¬ banana.ref.IsVirtual := by decide +kernel
  obtain ⟨refused, block, -⟩ := calls_unknownType regular.isBuilt unknown survives "node" true Host.bare
  exact ⟨regular.isBuilt, unknown, survives, real, refused, block real⟩

/-- A resource whose type is that of a file behind an `@`. -/
def virtualFile : Resource := ⟨{ type := "@file", name := "/f" }, ∅⟩

/-- The resource is refused, but its code succeeds. -/
theorem applyBlock_virtualFile : virtualFile.IsBuilt ∧ (∀ t, ResourceType.get virtualFile.ref.type ≠ .ok t) ∧
    Catalog.Survives .asPut [virtualFile] "'@file':\n  /f: \x7b\x7d\n" ∧
    (((backends .asPut defaultNode false).enforce virtualFile).result Host.bare).1.toOption.map Enforcement.succeeded =
      some false ∧
    (((backends .asPut defaultNode false).applyBlock (.text "'@file':\n  /f: \x7b\x7d\n")).result Host.bare).1.toOption.map
      BlockResult.succeeded = some true := by
  have regular : virtualFile.IsRegular := by decide +kernel
  have unknown : ∀ t, ResourceType.get virtualFile.ref.type ≠ .ok t := by rintro _ ⟨⟩
  exact ⟨regular.isBuilt, unknown, .of_normal (by decide +kernel) (by decide +kernel) (by decide +kernel),
    by decide +kernel, by decide +kernel⟩

end Local

end Converge
