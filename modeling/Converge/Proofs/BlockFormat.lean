import Converge.Proofs.Declarations
import Converge.Proofs.Records
import Converge.Proofs.SmallLetters

/-!
# The format of blocks of code

What a block of code has to be is told without the compiler: it is nothing, or a mapping of sections
(`IsBlock`), each of which is virtual, or nothing under a known type, or a mapping of names to parameters under one.
The compiler accepts the values of this form in which no display form stands twice, and no others
(`compile_block`); its catalog then holds what the entries say, in their order.
-/

namespace Converge

open Text

/-! ## Types that are known in small letters -/

namespace Text

/-- A character that is its own small form is kept in small letters. -/
theorem Settled.mem_lowerFrom {c : Char} (settled : Settled c) {l : List Char} (member : c ∈ l) (before : List Char) :
    c ∈ lowerFrom before l := by
  induction l generalizing before with
  | nil => cases member
  | cons d l ih =>
    rw [lowerFrom, List.mem_append]
    rcases List.mem_cons.mp member with rfl | later
    · exact .inl (by rw [settled before l]; exact List.mem_singleton_self c)
    · exact .inr (ih later (d :: before))

theorem Settled.mem_lower {c : Char} (settled : Settled c) {s : String} (member : c ∈ s.toList) :
    c ∈ (lower s).toList := by
  rw [lower, String.toList_ofList]
  exact settled.mem_lowerFrom member []

end Text

namespace ResourceType

variable {typeName : String} {t : ResourceType}

theorem isBlank_of_mem_name (t : ResourceType) : ∀ c ∈ t.name.toList, isBlank c = false := by
  have letters : (t.name.toList.all fun c => !isBlank c) = true := by cases t <;> decide
  simpa using List.all_eq_true.mp letters

/-- What is its own small form in a type that is known in small letters is a character of the known name. -/
theorem mem_name_of_get_lower (known : get (lower typeName) = .ok t) {c : Char} (settled : Settled c)
    (member : c ∈ typeName.toList) : c ∈ t.name.toList := by
  rw [← name_of_get known]
  exact settled.mem_lower member

/-- A type that is known in small letters is kept as these, as it has no blanks around it. -/
theorem normalType_of_get_lower (known : get (lower typeName) = .ok t) : Ref.normalType typeName = lower typeName := by
  rw [Ref.normalType, strip_of_not_blank]
  intro c member
  by_contra blank
  have settled := settled_of_blank ((Bool.not_eq_false _).mp blank)
  exact blank (t.isBlank_of_mem_name c (mem_name_of_get_lower known settled member))

end ResourceType

/-! ## Building resources -/

/-- A value stands for parameters: it counts as nothing, or it counts as a table. -/
inductive Value.IsParameters (v : Value) : Parameters → Prop
  | nothing (empty : v.isTruthy = false) : IsParameters v ∅
  | table {t : Parameters} (something : v.isTruthy = true) (counts : v.IsTable t) : IsParameters v t

namespace Resource

variable {r : Resource}

theorem withParameters_ok_iff {ref : Ref} {v : Value} :
    withParameters ref v = .ok r ↔ r.ref = ref ∧ v.IsParameters r.parameters := by
  rw [withParameters]
  split
  · next something =>
    rw [Validation.reported, mapError_ok_iff, map_ok_iff]
    constructor
    · rintro ⟨table, read, rfl⟩
      exact ⟨rfl, .table something (Validation.readTable_iff.mp read)⟩
    · obtain ⟨ref', parameters⟩ := r
      rintro ⟨rfl, given⟩
      cases given with
      | nothing empty =>
        rw [empty] at something
        cases something
      | table _ counts => exact ⟨parameters, Validation.readTable_iff.mpr counts, rfl⟩
  · next nothing =>
    constructor
    · rintro ⟨⟩
      exact ⟨rfl, .nothing (Bool.not_eq_true _ ▸ nothing)⟩
    · obtain ⟨ref', parameters⟩ := r
      rintro ⟨rfl, given⟩
      cases given with
      | nothing _ => rfl
      | table something _ => exact absurd something nothing

/-- What is built of a type, a name and a value for the parameters. -/
theorem build_ok_iff {type name : String} {v : Value} : build (.text type) (.text name) v = .ok r ↔
    r.ref.type = Ref.normalType type ∧ r.ref.name = name ∧ v.IsParameters r.parameters := by
  rw [build, bind_eq_ok]
  simp only [Ref.ofValues?_ok_iff, withParameters_ok_iff]
  constructor
  · rintro ⟨ref, ⟨typed, named⟩, rfl, given⟩
    exact ⟨typed, named, given⟩
  · rintro ⟨typed, named, given⟩
    exact ⟨r.ref, ⟨typed, named⟩, rfl, given⟩

end Resource

namespace Catalog

/-! ## What a block has to be -/

/-- Under a type, an entry of a block says what a resource is: the text of its key is the name, and its value stands for
the parameters. A name is not empty, as no name of a resource is. -/
structure Says (type : String) (e : Value × Value) (r : Resource) : Prop where
  type : r.ref.type = type
  name : e.1.shown = .ok r.ref.name
  parameters : e.2.IsParameters r.parameters

/-- A type under which a block declares virtual resources. -/
def IsVirtualType (typeName : String) : Prop := typeName.toList.head? = some '@'

instance (typeName : String) : Decidable (IsVirtualType typeName) := inferInstanceAs (Decidable (_ = _))

/-- An entry of a block is a section with some resources: a virtual one whatever its value, or one under a type that
is known in small letters, which is null or a mapping of entries for the resources. -/
inductive IsSection (e : Value × Value) : List Resource → Prop
  | virtual {typeName : String} (shown : e.1.shown = .ok typeName) (virtual : IsVirtualType typeName) : IsSection e []
  | null {typeName : String} {t : ResourceType} (shown : e.1.shown = .ok typeName) (real : ¬ IsVirtualType typeName)
      (known : ResourceType.get (lower typeName) = .ok t) (null : e.2 = .null) : IsSection e []
  | mapping {typeName : String} {t : ResourceType} {named : List (Value × Value)} {rs : List Resource}
      (shown : e.1.shown = .ok typeName) (real : ¬ IsVirtualType typeName)
      (known : ResourceType.get (lower typeName) = .ok t) (given : e.2.entries? = some named)
      (all : List.Forall₂ (Says (lower typeName)) named rs) : IsSection e rs

theorem IsSection.shown {e : Value × Value} {rs : List Resource} (sectioned : IsSection e rs) :
    ∃ typeName, e.1.shown = .ok typeName := by
  cases sectioned with
  | virtual shown _ => exact ⟨_, shown⟩
  | null shown _ _ _ => exact ⟨_, shown⟩
  | mapping shown _ _ _ _ => exact ⟨_, shown⟩

/-- A value is a block with some resources: null, or a mapping whose entries are sections with these in a row. -/
inductive IsBlock (data : Value) : List Resource → Prop
  | null (null : data = .null) : IsBlock data []
  | mapping {entries : List (Value × Value)} {sections : List (List Resource)} (given : data.entries? = some entries)
      (all : List.Forall₂ IsSection entries sections) : IsBlock data sections.flatten

/-- A catalog as it is compiled: some resources in their order, under their display forms, and nothing else. -/
structure IsFresh (c : Catalog) (node : String) (rs : List Resource) : Prop where
  node : c.node = node
  keyed : c.Keyed
  declared : c.declared = rs
  dependencies : c.dependencies = ∅
  order : c.order = none

/-! ## Adding what entries say -/

variable {c after : Catalog}

theorem addEntry_ok_iff {typeName : String} {e : Value × Value} :
    addEntry typeName c e = .ok after ↔ ∃ r, IsDeclaredBy typeName e r ∧ c.extend r = .ok after := by
  rw [addEntry, bind_eq_ok]
  constructor
  · rintro ⟨name, shown, added⟩
    split at added
    · cases added
    · next r built => exact ⟨r, ⟨name, shown, built⟩, added⟩
  · rintro ⟨r, ⟨name, shown, built⟩, added⟩
    refine ⟨name, shown, ?_⟩
    rw [built]
    exact added

/-- Under a type that is known in small letters, what an entry declares is what it says. -/
theorem isDeclaredBy_iff {typeName : String} {t : ResourceType} (known : ResourceType.get (lower typeName) = .ok t)
    {e : Value × Value} {r : Resource} : IsDeclaredBy typeName e r ↔ Says (lower typeName) e r := by
  rw [IsDeclaredBy, ← ResourceType.normalType_of_get_lower known]
  simp only [Resource.build_ok_iff]
  constructor
  · rintro ⟨name, shown, type, rfl, given⟩
    exact ⟨type, shown, given⟩
  · rintro ⟨type, shown, given⟩
    exact ⟨_, shown, type, rfl, given⟩

theorem foldlM_addEntry_ok_iff {typeName : String} {t : ResourceType}
    (known : ResourceType.get (lower typeName) = .ok t) {entries : List (Value × Value)} :
    entries.foldlM (addEntry typeName) c = .ok after ↔
      ∃ rs, List.Forall₂ (Says (lower typeName)) entries rs ∧ rs.foldlM extend c = .ok after := by
  induction entries generalizing c with
  | nil => simp
  | cons e entries ih =>
    simp only [List.foldlM_cons, bind_eq_ok, addEntry_ok_iff, isDeclaredBy_iff known, ih]
    constructor
    · rintro ⟨next, ⟨r, first, added⟩, rs, all, later⟩
      refine ⟨r :: rs, .cons first all, ?_⟩
      rw [List.foldlM_cons, bind_eq_ok]
      exact ⟨next, added, later⟩
    · rintro ⟨_, ⟨⟩ | ⟨first, all⟩, run⟩
      rw [List.foldlM_cons, bind_eq_ok] at run
      obtain ⟨next, added, later⟩ := run
      exact ⟨next, ⟨_, first, added⟩, _, all, later⟩

theorem addType_ok_iff {typeName : String} {entries : Value} : c.addType typeName entries = .ok after ↔
    (∃ t, ResourceType.get (lower typeName) = .ok t) ∧ (entries = .null ∧ c = after ∨
      ∃ named, entries.entries? = some named ∧ named.foldlM (addEntry typeName) c = .ok after) := by
  constructor
  · intro added
    obtain ⟨t, known, run⟩ := bind_eq_ok.mp added
    refine ⟨⟨t, known⟩, ?_⟩
    split at run
    · exact .inl ⟨rfl, Except.ok.inj run⟩
    · next named _ given => exact .inr ⟨named, given, run⟩
    · cases run
  · rintro ⟨⟨t, known⟩, cases⟩
    refine bind_eq_ok.mpr ⟨t, known, ?_⟩
    rcases cases with ⟨rfl, rfl⟩ | ⟨named, given, run⟩
    · rfl
    · split
      · cases given
      · next given' =>
        cases given.symm.trans given'
        exact run
      · next missing => cases given.symm.trans missing

/-- A section that is not virtual adds its resources. -/
theorem addType_section_iff {e : Value × Value} {typeName : String} (shown : e.1.shown = .ok typeName)
    (real : ¬ IsVirtualType typeName) :
    c.addType typeName e.2 = .ok after ↔ ∃ rs, IsSection e rs ∧ rs.foldlM extend c = .ok after := by
  rw [addType_ok_iff]
  constructor
  · rintro ⟨⟨t, known⟩, ⟨null, rfl⟩ | ⟨named, given, run⟩⟩
    · exact ⟨[], .null shown real known null, rfl⟩
    · obtain ⟨rs, all, run⟩ := (foldlM_addEntry_ok_iff known).mp run
      exact ⟨rs, .mapping shown real known given all, run⟩
  · rintro ⟨rs, sectioned, run⟩
    cases sectioned with
    | virtual shown' virtual =>
      cases shown.symm.trans shown'
      exact absurd virtual real
    | null shown' _ known null =>
      cases shown.symm.trans shown'
      exact ⟨⟨_, known⟩, .inl ⟨null, Except.ok.inj run⟩⟩
    | mapping shown' _ known given all =>
      cases shown.symm.trans shown'
      exact ⟨⟨_, known⟩, .inr ⟨_, given, (foldlM_addEntry_ok_iff known).mpr ⟨rs, all, run⟩⟩⟩

/-- A virtual section is passed over. -/
theorem addTypes_cons_virtual {e : Value × Value} {typeName : String} (shown : e.1.shown = .ok typeName)
    (virtual : IsVirtualType typeName) (rest : List (Value × Value)) :
    (c.addTypes (e :: rest)).2 = (c.addTypes rest).2 := by
  obtain ⟨after, spelled⟩ := List.head?_eq_some_iff.mp virtual
  rw [addTypes, shown]
  simp only [spelled]

theorem addTypes_cons_real {e : Value × Value} {typeName : String} (shown : e.1.shown = .ok typeName)
    (real : ¬ IsVirtualType typeName) (rest : List (Value × Value)) :
    (c.addTypes (e :: rest)).2 = c.addType typeName e.2 >>= fun next => (next.addTypes rest).2 := by
  rw [addTypes, shown]
  dsimp only
  split
  · next spelled => exact absurd (by rw [IsVirtualType, spelled]; rfl) real
  · cases c.addType typeName e.2 <;> rfl

theorem addTypes_ok_iff {entries : List (Value × Value)} : (c.addTypes entries).2 = .ok after ↔
    ∃ sections, List.Forall₂ IsSection entries sections ∧ sections.flatten.foldlM extend c = .ok after := by
  induction entries generalizing c with
  | nil => simp [addTypes, pure, Except.pure]
  | cons e entries ih =>
    cases shown : e.1.shown with
    | error fault =>
      have stopped : (c.addTypes (e :: entries)).2 = .error fault := by rw [addTypes, shown]
      rw [stopped]
      constructor
      · rintro ⟨⟩
      · rintro ⟨_, ⟨⟩ | ⟨sectioned, -⟩, -⟩
        obtain ⟨typeName, shown'⟩ := sectioned.shown
        cases shown.symm.trans shown'
    | ok typeName =>
      by_cases virtual : IsVirtualType typeName
      · rw [addTypes_cons_virtual shown virtual, ih]
        constructor
        · rintro ⟨sections, all, run⟩
          exact ⟨[] :: sections, .cons (.virtual shown virtual) all, run⟩
        · rintro ⟨_, ⟨⟩ | ⟨sectioned, all⟩, run⟩
          cases sectioned with
          | virtual _ _ => exact ⟨_, all, run⟩
          | null _ _ _ _ => exact ⟨_, all, run⟩
          | mapping shown' real _ _ _ =>
            cases shown.symm.trans shown'
            exact absurd virtual real
      · rw [addTypes_cons_real shown virtual, bind_eq_ok]
        simp only [addType_section_iff shown virtual, ih]
        constructor
        · rintro ⟨next, ⟨rs, sectioned, first⟩, sections, all, later⟩
          refine ⟨rs :: sections, .cons sectioned all, ?_⟩
          rw [List.flatten_cons, List.foldlM_append, bind_eq_ok]
          exact ⟨next, first, later⟩
        · rintro ⟨_, ⟨⟩ | ⟨sectioned, all⟩, run⟩
          rw [List.flatten_cons, List.foldlM_append, bind_eq_ok] at run
          obtain ⟨next, first, later⟩ := run
          exact ⟨next, ⟨_, sectioned, first⟩, _, all, later⟩

/-! ## Fresh catalogs -/

theorem isFresh_empty (node : String) : (empty node).IsFresh node [] :=
  ⟨rfl, fun e member => (by cases member), rfl, rfl, rfl⟩

theorem IsFresh.add {node : String} {rs : List Resource} {r : Resource} (fresh : c.IsFresh node rs)
    (added : c.extend r = .ok after) : after.IsFresh node (rs ++ [r]) := by
  have declared := extend_declared added
  have keyed := fresh.keyed.extend added
  obtain ⟨-, rfl⟩ := extend_ok_iff.mp added
  exact ⟨fresh.node, keyed, fresh.declared ▸ declared, fresh.dependencies, rfl⟩

theorem IsFresh.foldlM {node : String} {rs more : List Resource} (fresh : c.IsFresh node rs)
    (run : more.foldlM Catalog.extend c = .ok after) : after.IsFresh node (rs ++ more) := by
  induction more generalizing c rs with
  | nil =>
    cases run
    simpa using fresh
  | cons r more ih =>
    rw [List.foldlM_cons, bind_eq_ok] at run
    obtain ⟨next, added, later⟩ := run
    simpa using ih (fresh.add added) later

/-- Two fresh catalogs with the same resources are one. -/
theorem IsFresh.unique {node : String} {rs : List Resource} (fresh : c.IsFresh node rs)
    (fresh' : after.IsFresh node rs) : c = after := by
  have entries {d : Catalog} (own : d.IsFresh node rs) : d.resources.entries = rs.map fun r => (r.display, r) := by
    rw [← own.declared, Catalog.declared, Table.values, List.map_map]
    exact (List.map_id _).symm.trans (List.map_congr_left fun e member => Prod.ext (own.keyed e member) rfl)
  obtain ⟨node', resources, dependencies, order⟩ := c
  obtain ⟨node'', resources', dependencies', order'⟩ := after
  obtain rfl := fresh.node.trans fresh'.node.symm
  obtain rfl := fresh.dependencies.trans fresh'.dependencies.symm
  obtain rfl := fresh.order.trans fresh'.order.symm
  obtain rfl : resources = resources' := Table.ext ((entries fresh).trans (entries fresh').symm)
  rfl

/-- Resources are added to nothing exactly when no display form stands twice. -/
theorem ofResources_ok_iff {node : String} {rs : List Resource} :
    ofResources node rs = .ok c ↔ (rs.map Resource.display).Nodup ∧ c.IsFresh node rs := by
  constructor
  · intro built
    have fresh : c.IsFresh node rs := by simpa using (isFresh_empty node).foldlM built
    exact ⟨fresh.declared ▸ fresh.keyed.nodup, fresh⟩
  · rintro ⟨nodup, fresh⟩
    obtain ⟨d, built⟩ := foldlM_extend_ok (isFresh_empty node).keyed
      (by simpa [(isFresh_empty node).declared] using nodup)
    have fresh' : d.IsFresh node rs := by simpa using (isFresh_empty node).foldlM built
    rw [fresh.unique fresh']
    exact built

/-! ## Compiling blocks -/

theorem ofValue_ok_iff {node : String} {data : Value} : (ofValue node false data).2 = .ok c ↔
    ∃ rs, IsBlock data rs ∧ ofResources node rs = .ok c := by
  constructor
  · intro compiled
    unfold ofValue at compiled
    dsimp only at compiled
    split at compiled
    · exact ⟨[], .null rfl, compiled⟩
    · next entries _ given =>
      obtain ⟨sections, all, run⟩ := addTypes_ok_iff.mp compiled
      exact ⟨_, .mapping given all, run⟩
    · cases compiled
  · rintro ⟨rs, block, built⟩
    unfold ofValue
    dsimp only
    cases block with
    | null null =>
      obtain rfl := null
      exact built
    | mapping given all =>
      split
      · cases given
      · next given' =>
        cases given.symm.trans given'
        exact addTypes_ok_iff.mpr ⟨_, all, built⟩
      · next missing => cases given.symm.trans missing

/-- An entry of a block is no virtual section. -/
def isReal (e : Value × Value) : Bool :=
  match e.1.shown with
  | .ok typeName => !decide (IsVirtualType typeName)
  | .error _ => true

/-- Virtual sections have no influence, whatever their values. -/
theorem addTypes_filter (c : Catalog) (entries : List (Value × Value)) :
    (c.addTypes (entries.filter isReal)).2 = (c.addTypes entries).2 := by
  induction entries generalizing c with
  | nil => rfl
  | cons e entries ih =>
    cases shown : e.1.shown with
    | error fault =>
      have kept : isReal e = true := by rw [isReal, shown]
      rw [List.filter_cons_of_pos kept, addTypes, addTypes, shown]
    | ok typeName =>
      by_cases virtual : IsVirtualType typeName
      · have dropped : ¬ isReal e = true := by simp [isReal, shown, virtual]
        rw [List.filter_cons_of_neg dropped, addTypes_cons_virtual shown virtual, ih]
      · have kept : isReal e = true := by simp [isReal, shown, virtual]
        rw [List.filter_cons_of_pos kept, addTypes_cons_real shown virtual, addTypes_cons_real shown virtual]
        exact congrArg _ (funext fun next => ih next)

/-- Each key of a block that is looked at can be shown: those for types, and those for names unless they are virtual. -/
def HasShownKeys (data : Value) : Prop :=
  ∀ entries, data.entries? = some entries → ∀ e ∈ entries, ∃ typeName, e.1.shown = .ok typeName ∧
    (¬ IsVirtualType typeName → ∀ named, e.2.entries? = some named → ∀ e' ∈ named, ∃ name, e'.1.shown = .ok name)

theorem refused_of_shown {data : Value} (keys : HasShownKeys data) (node : String) (scaffolding : Bool) :
    Fails (fun fault => ∃ refusal, fault = .catalog refusal) (ofValue node scaffolding data).2 := by
  refine fails_ofValue (fun refusal => ⟨refusal, rfl⟩) node scaffolding fun entries given e member => ?_
  obtain ⟨typeName, shown, names⟩ := keys entries given e member
  rw [shown]
  refine ⟨.ok _, fun typeName' same real named inner e' inside => ?_⟩
  cases same
  obtain ⟨name, shown'⟩ := names real named inner e' inside
  rw [shown']
  exact .ok _

/-- A block of code compiles exactly when it has the form of one and no display form stands twice among its
resources: these are what the catalog holds then. Virtual sections have no influence, and where the keys can be shown,
whatever is refused is refused by a rule of catalogs. -/
theorem compile_block {code : String} {data : Value} (loaded : Document.load sets code = .ok data) (node : String) :
    (∀ c, (compile sets node false (.text code)).2 = .ok c ↔
      ∃ rs, IsBlock data rs ∧ (rs.map Resource.display).Nodup ∧ c.IsFresh node rs) ∧
    (∀ entries, data.entries? = some entries → (compile sets node false (.text code)).2 =
      (ofValue node false (.map none (entries.filter isReal))).2) ∧
    (HasShownKeys data → ∀ fault, (compile sets node false (.text code)).2 = .error fault →
      ∃ refusal, fault = .catalog refusal) := by
  rw [compile_of_load loaded]
  refine ⟨fun c => ?_, fun entries given => ?_, fun keys => refused_of_shown keys node false⟩
  · simp only [ofValue_ok_iff, ofResources_ok_iff]
  · rw [ofValue_map, addTypes_filter]
    unfold ofValue
    dsimp only
    split
    · cases given
    · next given' =>
      cases given.symm.trans given'
      rfl
    · next missing => cases given.symm.trans missing

/-- A block with a virtual section that is no mapping, a type in capitals, a name that is a number, a section that is
null and parameters that are false. -/
def mixedBlock : String := "'@user': 7\nNOTIFY:\n  1: \x7bmessage: hi\x7d\n  b: false\nstage:\n"

theorem compile_block_mixedBlock : ∃ data, Document.load .asPut mixedBlock = .ok data ∧
    ∃ c, (compile .asPut "script" false (.text mixedBlock)).2 = .ok c ∧ IsBlock data c.declared ∧
      c.declared.map Resource.display = ["Notify[1]", "Notify[b]"] ∧
      c.declared.map (fun r => r.parameters.keys) = [["message"], []] := by
  have loads : (Document.load .asPut mixedBlock).toOption.isSome = true := by decide +kernel
  have compiles : (compile .asPut "script" false (.text mixedBlock)).2.toOption.map (fun c =>
      (c.declared.map Resource.display, c.declared.map fun r => r.parameters.keys)) =
        some (["Notify[1]", "Notify[b]"], [["message"], []]) := by decide +kernel
  obtain ⟨data, some⟩ := Option.isSome_iff_exists.mp loads
  have loaded := eq_ok_of_toOption some
  obtain ⟨c, some', parts⟩ := Option.map_eq_some_iff.mp compiles
  have compiled := eq_ok_of_toOption some'
  obtain ⟨rs, block, -, fresh⟩ := ((compile_block loaded "script").1 c).mp compiled
  obtain ⟨displays, keys⟩ := Prod.mk.inj parts
  exact ⟨data, loaded, c, compiled, fresh.declared.symm ▸ block, displays, keys⟩

/-- A name that cannot be shown stops the block, and not as a refusal of a catalog. -/
theorem ofValue_unshownName {key : Value} {fault : Fault} (unshown : key.shown = .error fault) :
    (ofValue "script" false (.map none [(.text "notify", .map none [(key, .null)])])).2 = .error fault := by
  have entry : addEntry "notify" (empty "script") (key, .null) = .error fault := by
    rw [addEntry, unshown]
    rfl
  have inside : (empty "script").addType "notify" (.map none [(key, .null)]) = .error fault := by
    change [(key, Value.null)].foldlM (addEntry "notify") (empty "script") = .error fault
    rw [List.foldlM_cons, entry]
    rfl
  have shown : (Value.text "notify").shown = .ok "notify" := rfl
  rw [ofValue_map, if_neg (by decide), addTypes_cons_real shown (by decide), inside]
  rfl

/-- A key that is too long to be shown is refused by no rule of catalogs, whether it stands for a name or for a type. -/
theorem compile_longKey :
    (ofValue "script" false (.map none [(.text "notify", .map none [(.int Session.longNumber, .null)])])).2 =
      .error .longNumber ∧
    (ofValue "script" false (.map none [(.int Session.longNumber, .null)])).2 = .error .longNumber := by
  have unshown : (Value.int Session.longNumber).shown = .error .longNumber := by
    have display (i : Int) : (Value.int i).display? = Text.showWhole? i := rfl
    rw [Value.shown, display, Session.longNumber_unshown]
  refine ⟨ofValue_unshownName unshown, ?_⟩
  rw [ofValue_map, addTypes, unshown]

end Catalog

end Converge
