import Converge.Proofs.Local
import Converge.Proofs.Reading
import Converge.Proofs.Rendering
import Converge.Proofs.WrittenEntries

/-!
# Declarations that are kept

A block of code maps types to names and names to parameters. Where a key is written again in a mapping, the later
entry takes the place of the earlier one before any declaration is looked at, so that what the earlier one declares is
lost (`compile_repeated`). What is written last for its keys is not: the catalog of a block holds a resource of its
own for each declaration that lasts (`compile_declarations`), unless the block is refused.
-/

namespace Converge

theorem forall₂_getElem? {α β : Type} {R : α → β → Prop} {l : List α} {l' : List β} (all : List.Forall₂ R l l')
    {i : Nat} {a : α} (found : l[i]? = some a) : ∃ b, l'[i]? = some b ∧ R a b := by
  induction all generalizing i with
  | nil => cases found
  | cons first rest ih =>
    cases i with
    | zero =>
      cases found
      exact ⟨_, rfl, first⟩
    | succ i => exact ih found

theorem exists_of_forall₂ {α β : Type} {R : α → β → Prop} {l : List α} {m : List β} (all : List.Forall₂ R l m) {b : β}
    (member : b ∈ m) : ∃ a ∈ l, R a b := by
  obtain ⟨i, found⟩ := List.mem_iff_getElem?.mp member
  obtain ⟨a, inside, related⟩ := forall₂_getElem? all.flip found
  exact ⟨a, List.mem_of_getElem? inside, related⟩

namespace Document

/-! ## Kept entries -/

namespace Workshop

variable {w : Workshop}

open Make (isSameKey)

theorem Lasts.append_left {entries : List (Nat × Nat)} {e : Nat × Nat} (lasts : w.Lasts entries e)
    (front : List (Nat × Nat)) : w.Lasts (front ++ entries) e := by
  obtain ⟨before, later, rfl, last⟩ := lasts
  exact ⟨front ++ before, later, (List.append_assoc ..).symm, last⟩

/-- What a mapping is filled with has the value of an entry at a place, under a form of its key. -/
def KeptAt (w : Workshop) (number i : Nat) (e : Nat × Nat) : Prop :=
  ∃ entries form, w.heldBy number = some (.entries entries) ∧ isSameKey w form e.1 ∧ entries[i]? = some (form, e.2)

/-- What begins with an entry and goes on with other keys begins with any entry in it for that key. -/
theorem eq_of_last {form : Nat} {e e' : Nat × Nat} {later between later' : List (Nat × Nat)}
    (split : e :: later = between ++ e' :: later') (last : ∀ other ∈ later, ¬ isSameKey w form other.1)
    (same : isSameKey w form e'.1) : e = e' := by
  cases between with
  | nil => exact (List.cons.inj split).1
  | cons first between =>
    obtain ⟨-, rfl⟩ := List.cons.inj split
    exact absurd same (last e' (by simp))

/-- Entries that last and are kept at one place are one. -/
theorem KeptAt.unique {entries : List (Nat × Nat)} {number i : Nat} {e e' : Nat × Nat} (kept : w.KeptAt number i e)
    (kept' : w.KeptAt number i e') (lasts : w.Lasts entries e) (lasts' : w.Lasts entries e') : e = e' := by
  obtain ⟨filled, form, held, same, found⟩ := kept
  obtain ⟨filled', form', held', same', found'⟩ := kept'
  obtain ⟨key, value⟩ := e
  obtain ⟨key', value'⟩ := e'
  cases held.symm.trans held'
  cases found.symm.trans found'
  obtain ⟨before, later, split, last⟩ := lasts
  obtain ⟨before', later', split', last'⟩ := lasts'
  rcases List.append_eq_append_iff.mp (split.symm.trans split') with ⟨between, -, rest⟩ | ⟨between, -, rest⟩
  · exact eq_of_last rest (last form same) same'
  · exact (eq_of_last rest (last' form same') same).symm

def Shows (w : Workshop) (key : Nat) (s : String) : Prop :=
  ∃ form v, isSameKey w form key ∧ w.Reads form v ∧ v.shown = .ok s

/-- A key that is a text is shown as that text alone. -/
theorem Shows.eq_of_text {key : Nat} {s shown : String} (shows : w.Shows key shown)
    (text : w.madeOf key = some (.leaf (.text s))) (noNan : (w.nodeOf key).isUsualNan = false) : shown = s := by
  obtain ⟨form, v, same, reads, read⟩ := shows
  have leaf : w.madeOf form = some (.leaf (.text s)) := by
    rcases (w.isSameKey_iff form key).mp same with rfl | ⟨-, nan⟩ | ⟨x, y, first, second, alike⟩
    · exact text
    · rw [noNan] at nan
      cases nan
    · cases text.symm.trans second
      rw [first]
      cases x with
      | text other =>
        rw [Value.sameKey, beq_iff_eq] at alike
        rw [alike]
      | _ => simp [Value.sameKey, Value.wholeNumber?] at alike
  have layer := reads.layer
  rw [Layer, leaf] at layer
  obtain ⟨f, rfl⟩ := layer
  exact (Except.ok.inj read).symm

end Workshop

/-- The value of a mapping has each entry that lasts. -/
theorem Graph.Built.kept {g : Graph} {w : Workshop} (built : g.Built w) {number : Nat}
    (mapping : (g.node number).tag = .mapping) (begun : w.Begun number) {v : Value} (reads : w.Reads number v) :
    ∃ us, v.entries? = some us ∧ ∀ e, w.Lasts (g.written number) e → w.Begun e.2 ∧ ∃ i u, w.KeptAt number i e ∧
      us[i]? = some u ∧ (∀ s, u.1.shown = .ok s → w.Shows e.1 s) ∧ w.Reads e.2 u.2 := by
  have collection : w.madeOf number = some .collection := by
    rcases begun with outside | ⟨m, made⟩
    · rw [built.progress.tended.room] at outside
      rw [Graph.node, Array.getElem?_eq_none outside] at mapping
      cases mapping
    · rw [made, (built.progress.tended.made number m made).2 mapping]
  obtain ⟨held, found⟩ := built.filled number collection
  obtain ⟨front, rfl, all⟩ := (built.progress.fills number held found).mapping mapping
  have layer := reads.layer
  rw [Workshop.Layer, collection, found] at layer
  obtain ⟨us, read, parts⟩ := layer
  refine ⟨us, read, fun e lasts => ?_⟩
  obtain ⟨form, same, member⟩ := (lasts.append_left front).mem_insertAll []
  obtain ⟨i, placed⟩ := List.getElem?_of_mem member
  obtain ⟨u, given, key, value⟩ := forall₂_getElem? parts placed
  refine ⟨?_, i, u, ⟨_, form, found, same, placed⟩, given, fun s shown => ⟨form, u.1, same, key, shown⟩, value⟩
  obtain ⟨before, later, written, -⟩ := lasts
  exact (all e (by simp [written])).2

/-! ## Declarations -/

/-- An entry for a name in a mapping that is the value for a type, by the numbers of the nodes. -/
structure Declaration where
  type : Nat
  names : Nat
  name : Nat
  parameters : Nat

/-- A document declares something last: the mapping that it is has no later entry for the type, and the mapping there no
later one for the name. -/
structure Graph.Declares (g : Graph) (w : Workshop) (d : Declaration) : Prop where
  root : (g.node g.root).tag = .mapping
  type : w.Lasts (g.written g.root) (d.type, d.names)
  names : (g.node d.names).tag = .mapping
  name : w.Lasts (g.written d.names) (d.name, d.parameters)

def Workshop.IsVirtual (w : Workshop) (d : Declaration) : Prop := ∃ s, w.Shows d.type s ∧ s.toList.head? = some '@'

end Document

namespace Catalog

open Document

/-! ## Entries of values -/

def IsDeclaredBy (typeName : String) (e : Value × Value) (r : Resource) : Prop :=
  ∃ name, e.1.shown = .ok name ∧ Resource.build (.text typeName) (.text name) e.2 = .ok r

/-- Resources are what the entries under a type declare, unless the type is that of virtual resources. -/
def AreDeclaredBy (e : Value × Value) (rs : List Resource) : Prop :=
  ∃ typeName, e.1.shown = .ok typeName ∧ (typeName.toList.head? = some '@' ∨
    ∀ named, e.2.entries? = some named → List.Forall₂ (IsDeclaredBy typeName) named rs)

variable {c after : Catalog}

theorem foldlM_addEntry_ok {typeName : String} {entries : List (Value × Value)} (keyed : c.Keyed)
    (added : entries.foldlM (addEntry typeName) c = .ok after) :
    after.Keyed ∧ ∃ rs, after.declared = c.declared ++ rs ∧ List.Forall₂ (IsDeclaredBy typeName) entries rs := by
  induction entries generalizing c with
  | nil =>
    cases added
    exact ⟨keyed, [], by simp, .nil⟩
  | cons e entries ih =>
    rw [List.foldlM_cons, bind_eq_ok] at added
    obtain ⟨next, first, later⟩ := added
    obtain ⟨name, shown, first⟩ := bind_eq_ok.mp first
    split at first
    · cases first
    · next r built =>
      obtain ⟨keyed', rs, declared, all⟩ := ih (keyed.extend first) later
      refine ⟨keyed', r :: rs, ?_, .cons ⟨name, shown, built⟩ all⟩
      rw [declared, extend_declared first, List.append_assoc, List.singleton_append]

theorem addType_ok {typeName : String} {entries : Value} (keyed : c.Keyed)
    (added : c.addType typeName entries = .ok after) : after.Keyed ∧ ∃ rs, after.declared = c.declared ++ rs ∧
      ∀ named, entries.entries? = some named → List.Forall₂ (IsDeclaredBy typeName) named rs := by
  obtain ⟨_, -, added⟩ := bind_eq_ok.mp added
  split at added
  · cases added
    exact ⟨keyed, [], by simp, by simp [Value.entries?]⟩
  · next named _ given =>
    obtain ⟨keyed', rs, declared, all⟩ := foldlM_addEntry_ok keyed added
    refine ⟨keyed', rs, declared, fun named' given' => ?_⟩
    cases given.symm.trans given'
    exact all
  · cases added

/-- A catalog holds what the entries of a document declare, one section for each type. -/
theorem addTypes_ok {entries : List (Value × Value)} (keyed : c.Keyed) (added : (c.addTypes entries).2 = .ok after) :
    after.Keyed ∧ ∃ sections : List (List Resource), after.declared = c.declared ++ sections.flatten ∧
      List.Forall₂ AreDeclaredBy entries sections := by
  induction entries generalizing c with
  | nil =>
    cases added
    exact ⟨keyed, [], by simp, .nil⟩
  | cons e entries ih =>
    rw [addTypes] at added
    split at added
    · cases added
    · next typeName shown =>
      split at added
      · next virtual spelled =>
        obtain ⟨keyed', sections, declared, all⟩ := ih keyed added
        refine ⟨keyed', [] :: sections, by simpa using declared, .cons ⟨typeName, shown, .inl ?_⟩ all⟩
        rw [spelled]
        rfl
      · split at added
        · cases added
        · next between first =>
          obtain ⟨keyed', rs, declared, all⟩ := addType_ok keyed first
          obtain ⟨keyed'', sections, declared', all'⟩ := ih keyed' added
          refine ⟨keyed'', rs :: sections, ?_, .cons ⟨typeName, shown, .inr all⟩ all'⟩
          rw [declared', declared, List.flatten_cons, List.append_assoc]

/-- Where no display form stands twice, it tells the section and the place in it. -/
theorem place_unique {sections : List (List Resource)} (nodup : (sections.flatten.map Resource.display).Nodup)
    {i i' j j' : Nat} {rs rs' : List Resource} {r r' : Resource} (first : sections[i]? = some rs)
    (second : sections[i']? = some rs') (inside : rs[j]? = some r) (inside' : rs'[j']? = some r')
    (same : r.display = r'.display) : i = i' ∧ j = j' := by
  rw [List.map_flatten, List.nodup_flatten, List.pairwise_map, List.pairwise_iff_getElem] at nodup
  obtain ⟨alone, apart⟩ := nodup
  obtain ⟨short, rfl⟩ := List.getElem?_eq_some_iff.mp first
  obtain ⟨short', rfl⟩ := List.getElem?_eq_some_iff.mp second
  have shown : r.display ∈ sections[i].map Resource.display := List.mem_map_of_mem (List.mem_of_getElem? inside)
  have shown' : r.display ∈ sections[i'].map Resource.display := by
    rw [same]
    exact List.mem_map_of_mem (List.mem_of_getElem? inside')
  obtain rfl : i = i' := by
    rcases Nat.lt_trichotomy i i' with less | equal | more
    · exact absurd shown' (apart i i' short short' less shown)
    · exact equal
    · exact absurd shown (apart i' i short' short more shown')
  refine ⟨rfl, ?_⟩
  have own := alone _ (List.mem_map_of_mem (List.getElem_mem short))
  have found : (sections[i].map Resource.display)[j]? = some r.display := by simp [inside]
  have found' : (sections[i].map Resource.display)[j']? = some r.display := by simp [inside', same]
  have room := (List.getElem?_eq_some_iff.mp found).1
  exact (List.getElem?_inj room own).mp (found.trans found'.symm)

/-! ## Declarations -/

/-- A resource has the type and the name that the keys of a declaration are shown as, and the parameters that are read
where the declaration has them. -/
def IsOf (w : Workshop) (d : Declaration) (r : Resource) : Prop :=
  ∃ typeName name v, w.Shows d.type typeName ∧ w.Shows d.name name ∧ w.Reads d.parameters v ∧
    Resource.build (.text typeName) (.text name) v = .ok r

/-- A resource stands in the place of a declaration among those of a catalog. -/
def Places (w : Workshop) (root : Nat) (sections : List (List Resource)) (d : Declaration) (r : Resource) : Prop :=
  ∃ (i j : Nat) (rs : List Resource), w.KeptAt root i (d.type, d.names) ∧ w.KeptAt d.names j (d.name, d.parameters) ∧
    sections[i]? = some rs ∧ rs[j]? = some r

theorem Places.unique {g : Graph} {w : Workshop} {sections : List (List Resource)}
    (nodup : (sections.flatten.map Resource.display).Nodup) {d d' : Declaration} (declares : g.Declares w d)
    (declares' : g.Declares w d') {r r' : Resource} (places : Places w g.root sections d r)
    (places' : Places w g.root sections d' r') (same : r.display = r'.display) : d = d' := by
  obtain ⟨i, j, rs, type, name, first, second⟩ := places
  obtain ⟨i', j', rs', type', name', first', second'⟩ := places'
  obtain ⟨rfl, rfl⟩ := place_unique nodup first first' second second' same
  obtain ⟨t, n, k, p⟩ := d
  obtain ⟨t', n', k', p'⟩ := d'
  cases type.unique type' declares.type declares'.type
  cases name.unique name' declares.name declares'.name
  rfl

/-- Each declaration that lasts, unless it is virtual, has a resource in its place. -/
theorem exists_places {g : Graph} {w : Workshop} (built : g.Built w) {data : Value} (reads : w.Reads g.root data)
    {entries : List (Value × Value)} (given : data.entries? = some entries) {sections : List (List Resource)}
    (all : List.Forall₂ AreDeclaredBy entries sections) {d : Declaration} (declares : g.Declares w d)
    (real : ¬ w.IsVirtual d) : ∃ r, Places w g.root sections d r ∧ IsOf w d r := by
  obtain ⟨us, read, kept⟩ := built.kept declares.root built.root reads
  cases given.symm.trans read
  obtain ⟨begun, i, u, type, found, shows, inner⟩ := kept _ declares.type
  obtain ⟨rs, first, typeName, shown, virtual | own⟩ := forall₂_getElem? all found
  · exact absurd ⟨typeName, shows typeName shown, virtual⟩ real
  · obtain ⟨us', read', kept'⟩ := built.kept declares.names begun inner
    obtain ⟨-, j, u', name, found', shows', reads'⟩ := kept' _ declares.name
    obtain ⟨r, second, nameText, shown', made⟩ := forall₂_getElem? (own us' read') found'
    exact ⟨r, ⟨i, j, rs, type, name, first, second⟩, typeName, nameText, u'.2, shows typeName shown,
      shows' nameText shown', reads', made⟩

theorem Places.mem {w : Workshop} {root : Nat} {sections : List (List Resource)} {d : Declaration} {r : Resource}
    (places : Places w root sections d r) : r ∈ sections.flatten := by
  obtain ⟨i, j, rs, -, -, first, second⟩ := places
  exact List.mem_flatten.mpr ⟨rs, List.mem_of_getElem? first, List.mem_of_getElem? second⟩

/-! ## Refusals -/

/-- A fault is that of a catalog, or a key has too many digits to be shown. -/
def IsRefusal (fault : Fault) : Prop := (∃ refusal, fault = .catalog refusal) ∨ fault = .longNumber

theorem refuses_shown (v : Value) : Fails IsRefusal v.shown := by
  rw [Value.shown]
  split
  · exact .ok _
  · exact .error (.inr rfl)

theorem refuses_ofValue (node : String) (scaffolding : Bool) (data : Value) :
    Fails IsRefusal (ofValue node scaffolding data).2 :=
  fails_ofValue (fun refusal => .inl ⟨refusal, rfl⟩) node scaffolding fun _ _ e _ =>
    ⟨refuses_shown e.1, fun _ _ _ _ _ e' _ => refuses_shown e'.1⟩

/-! ## Blocks of code -/

/-- A catalog holds a resource of its own for each declaration of a document that lasts and is not virtual. -/
def HoldsAll (c : Catalog) (g : Graph) (w : Workshop) : Prop :=
  ∃ resourceOf : Declaration → Resource,
    (∀ d, g.Declares w d → ¬ w.IsVirtual d → resourceOf d ∈ c.declared ∧ IsOf w d (resourceOf d)) ∧
    ∀ d d', g.Declares w d → ¬ w.IsVirtual d → g.Declares w d' → ¬ w.IsVirtual d' →
      (resourceOf d).display = (resourceOf d').display → d = d'

theorem holdsAll_of_addTypes {g : Graph} {w : Workshop} (built : g.Built w) {data : Value} (reads : w.Reads g.root data)
    {entries : List (Value × Value)} (given : data.entries? = some entries) {start c : Catalog} (keyed : start.Keyed)
    (added : (start.addTypes entries).2 = .ok c) : c.HoldsAll g w := by
  obtain ⟨keyed', sections, declared, all⟩ := addTypes_ok keyed added
  have nodup : (sections.flatten.map Resource.display).Nodup := by
    have whole := keyed'.nodup
    rw [declared, List.map_append] at whole
    exact whole.of_append_right
  have each (d : Declaration) : ∃ r, g.Declares w d → ¬ w.IsVirtual d → Places w g.root sections d r ∧ IsOf w d r := by
    by_cases both : g.Declares w d ∧ ¬ w.IsVirtual d
    · obtain ⟨r, placed⟩ := exists_places built reads given all both.1 both.2
      exact ⟨r, fun _ _ => placed⟩
    · exact ⟨default, fun declares real => absurd ⟨declares, real⟩ both⟩
  choose resourceOf own using each
  refine ⟨resourceOf, fun d declares real => ⟨?_, (own d declares real).2⟩,
    fun d d' declares real declares' real' same => ?_⟩
  · rw [declared]
    exact List.mem_append_right _ (own d declares real).1.mem
  · exact (own d declares real).1.unique nodup declares declares' (own d' declares' real').1 same

theorem holdsAll_of_ofValue {g : Graph} {w : Workshop} (built : g.Built w) {data : Value} (reads : w.Reads g.root data)
    {node : String} {scaffolding : Bool} {c : Catalog} (compiled : (ofValue node scaffolding data).2 = .ok c) :
    c.HoldsAll g w := by
  have keyed : (if scaffolding then scaffold node else empty node).Keyed := by
    cases scaffolding with
    | true => exact keyed_scaffold node
    | false => exact fun e member => by cases member
  unfold ofValue at compiled
  dsimp only at compiled
  split at compiled
  · -- What reads as a mapping does is not nothing.
    have none (d : Declaration) (declares : g.Declares w d) : False := by
      obtain ⟨us, read, -⟩ := built.kept declares.root built.root reads
      cases read
    exact ⟨fun _ => default, fun d declares => (none d declares).elim, fun d _ declares => (none d declares).elim⟩
  · next entries _ given => exact holdsAll_of_addTypes built reads given keyed compiled
  · cases compiled

theorem readCode_of_error {sets : Value.SetOrder} {text : String} {fault : DocumentFault}
    (refused : load sets text = .error fault) :
    readCode sets (.text text) =
      Except.error (if fault.isMalformed then Fault.catalog (.unreadableCode fault) else Fault.document fault) := by
  unfold readCode
  dsimp only
  rw [refused]
  dsimp only
  split <;> rfl

/-- A block of code, whatever its text: it is refused by the rules of catalogs, or a key in it is a number too long to
be shown, or a scalar in it is impossible; or its catalog holds a resource of its own for each declaration that lasts
and is not virtual. -/
theorem compile_declarations (sets : Value.SetOrder) (node : String) (scaffolding : Bool) (text : String) :
    (∃ refusal, (compile sets node scaffolding (.text text)).2 = .error (.catalog refusal)) ∨
    (compile sets node scaffolding (.text text)).2 = .error .longNumber ∨
    (∃ fault, (compile sets node scaffolding (.text text)).2 = .error (.document fault) ∧
      load sets text = .error fault ∧
      fault.isMalformed = false) ∨
    ∃ c, (compile sets node scaffolding (.text text)).2 = .ok c ∧
      ∀ g, Graph.read? (Source.ofText text) = .ok (some g) → ∃ w, g.make = .ok w ∧ c.HoldsAll g w := by
  cases loaded : load sets text with
  | error fault =>
    have refused := readCode_of_error loaded
    unfold compile
    rw [refused]
    cases malformed : fault.isMalformed with
    | true => exact .inl ⟨_, rfl⟩
    | false => exact .inr (.inr (.inl ⟨fault, rfl, rfl, malformed⟩))
  | ok data =>
    rw [compile_of_load loaded]
    cases compiled : (ofValue node scaffolding data).2 with
    | error fault =>
      rcases refuses_ofValue node scaffolding data fault compiled with ⟨refusal, rfl⟩ | rfl
      · exact .inl ⟨refusal, rfl⟩
      · exact .inr (.inl rfl)
    | ok c =>
      refine .inr (.inr (.inr ⟨c, rfl, fun g read => ?_⟩))
      have value : g.value sets = .ok data := by
        rw [load, Source.load, read] at loaded
        exact loaded
      rw [Graph.value_eq] at value
      obtain ⟨w, made, rfl⟩ := map_ok_iff.mp value
      have built := Graph.make_built made
      have keys : w.KeysSettled := fun n entries held => (built.progress.fills n _ held).keys entries rfl
      have reads := Workshop.reads_normalShares sets built.progress.sound keys g.root
      rw [built.progress.tended.room] at reads
      exact ⟨w, made, holdsAll_of_ofValue built reads compiled⟩

deriving instance DecidableEq for Made

/-- A block that writes one type twice. -/
def repeatedType : String := "file: {/a: {}}\nfile: {/b: {}}\n"

/-- A block that writes one name twice under its type. -/
def repeatedName : String := "file:\n  /a:\n    mode: '0644'\n  /a:\n    mode: '0600'\n"

/-- The second of two declarations under one type, written twice, is kept. -/
theorem compile_declarations_repeatedType : ∃ g w c r, Graph.read? (Source.ofText repeatedType) = .ok (some g) ∧
    g.make = .ok w ∧ g.Declares w ⟨5, 6, 7, 8⟩ ∧ ¬ w.IsVirtual ⟨5, 6, 7, 8⟩ ∧
    (compile .asPut "script" false (.text repeatedType)).2 = .ok c ∧ r ∈ c.declared ∧ IsOf w ⟨5, 6, 7, 8⟩ r := by
  have compiles : (compile .asPut "script" false (.text repeatedType)).2.toOption.isSome = true := by decide +kernel
  have nodes : (Graph.read? (Source.ofText repeatedType)).toOption.join.map (fun g =>
      ((g.node g.root).tag, g.written g.root, (g.node 6).tag, g.written 6)) =
        some (.mapping, [(1, 2), (5, 6)], .mapping, [(7, 8)]) := by decide +kernel
  have key : (Graph.read? (Source.ofText repeatedType)).toOption.join.bind (fun g => g.make.toOption.map fun w =>
      ((w.nodeOf 5).isUsualNan, w.madeOf 5)) = some (false, some (.leaf (.text "file"))) := by decide +kernel
  obtain ⟨g, joined, parts⟩ := Option.map_eq_some_iff.mp nodes
  rw [joined, Option.bind_some] at key
  have read := eq_ok_of_toOption (Option.join_eq_some_iff.mp joined)
  simp only [Prod.mk.injEq] at parts
  obtain ⟨root, types, inner, names⟩ := parts
  rcases compile_declarations .asPut "script" false repeatedType with ⟨refusal, refused⟩ | refused | ⟨fault, refused, -⟩ |
    ⟨c, compiled, holds⟩
  · rw [refused] at compiles
    cases compiles
  · rw [refused] at compiles
    cases compiles
  · rw [refused] at compiles
    cases compiles
  · obtain ⟨w, made, resourceOf, own, -⟩ := holds g read
    rw [made] at key
    simp only [Except.toOption, Option.map_some, Option.some.injEq, Prod.mk.injEq] at key
    obtain ⟨noNan, leaf⟩ := key
    have declares : g.Declares w ⟨5, 6, 7, 8⟩ :=
      ⟨root, ⟨[(1, 2)], [], types, by simp⟩, inner, ⟨[], [], names, by simp⟩⟩
    have real : ¬ w.IsVirtual ⟨5, 6, 7, 8⟩ := by
      rintro ⟨s, shows, virtual⟩
      rw [shows.eq_of_text leaf noNan] at virtual
      cases virtual
    obtain ⟨member, is⟩ := own _ declares real
    exact ⟨g, w, c, _, read, made, declares, real, compiled, member, is⟩

/-- The first of two declarations is lost, where a type stands twice in a block and where a name stands twice under a
type: the block is not refused. -/
theorem compile_repeated :
    (compile .asPut "script" false (.text repeatedType)).2.toOption.map (fun c => c.declared.map Resource.display) =
      some ["File[/b]"] ∧
    (compile .asPut "script" false (.text repeatedName)).2.toOption.map (fun c =>
      c.declared.map fun r => (r.display, r.param? "mode")) = some [("File[/a]", some (.text "0600"))] := by
  decide +kernel

end Catalog

end Converge
