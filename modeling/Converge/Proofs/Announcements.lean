import Converge.Proofs.Launches
import Converge.Proofs.RefusedFiles

/-!
# What a dry run announces

A dry run looks at the same host as the run in earnest and takes the same way, until the first change; so it announces
events of the same properties, in the same order, except that the permission bits of what is only made in earnest are
not looked at (`apply_announces`).
-/

namespace Converge

/-- What only looks leaves the host as it was. -/
theorem Looks.same {α : Type} {a : Action Host α} (looks : Looks a) {h h' : Host} {outcome : Except Fault α}
    (run : a.result h = (outcome, h')) : h = h' := by
  rw [looks h h rfl rfl] at run
  exact (Prod.mk.inj run).2

/-! ## Two runs from one host -/

/-- Whenever two actions return from one host, their results are in a relation. -/
def Pairs {α β : Type} (R : α → β → Prop) (a : Action Host α) (b : Action Host β) : Prop :=
  ∀ h x y h₁ h₂, a.result h = (.ok x, h₁) → b.result h = (.ok y, h₂) → R x y

namespace Pairs

variable {α β γ δ : Type} {R : α → β → Prop}

theorem pure {x : α} {y : β} (related : R x y) : Pairs R (Pure.pure x) (Pure.pure y) := by
  intro h x' y' h₁ h₂ dry real
  obtain ⟨rfl, -⟩ := Action.result_pure_eq_ok.mp dry
  obtain ⟨rfl, -⟩ := Action.result_pure_eq_ok.mp real
  exact related

theorem same {R : α → α → Prop} (alike : ∀ x, R x x) (a : Action Host α) : Pairs R a a := by
  intro h x y h₁ h₂ dry real
  rw [dry, Prod.mk.injEq, Except.ok.injEq] at real
  exact real.1 ▸ alike x

theorem ite {c : Prop} [Decidable c] {a a' : Action Host α} {b b' : Action Host β} (yes : Pairs R a b)
    (no : Pairs R a' b') : Pairs R (if c then a else a') (if c then b else b') := by
  split
  · exact yes
  · exact no

/-- Both begin with the same part, which comes to the same in both. -/
theorem after (c : Action Host γ) {f : γ → Action Host α} {g : γ → Action Host β} (later : ∀ z, Pairs R (f z) (g z)) :
    Pairs R (c >>= f) (c >>= g) := by
  intro h x y h₁ h₂ dry real
  obtain ⟨z, mid, first, dry⟩ := Action.result_bind_eq_ok.mp dry
  obtain ⟨z', mid', first', real⟩ := Action.result_bind_eq_ok.mp real
  rw [first, Prod.mk.injEq, Except.ok.injEq] at first'
  obtain ⟨rfl, rfl⟩ := first'
  exact later z mid x y h₁ h₂ dry real

/-- Both attempt what begins with the same part; when this fails they go on in the same way. -/
theorem afterAttempt (c : Action Host γ) {f g : γ → Action Host δ} {k : Except Fault δ → Action Host α}
    {R : α → α → Prop} (alike : ∀ x, R x x) (later : ∀ z, Pairs R ((f z).attempt >>= k) ((g z).attempt >>= k)) :
    Pairs R ((c >>= f).attempt >>= k) ((c >>= g).attempt >>= k) := by
  intro h x y h₁ h₂ dry real
  rw [Action.result_attempt_bind] at dry real
  cases first : c.result h with
  | mk outcome mid =>
    rw [first] at dry real
    cases outcome with
    | ok z => exact later z mid x y h₁ h₂ dry real
    | error fault => exact Pairs.same alike _ mid x y h₁ h₂ dry real

theorem weaken {S : α → β → Prop} {a : Action Host α} {b : Action Host β} (pairs : Pairs R a b)
    (related : ∀ x y, R x y → S x y) : Pairs S a b :=
  fun h x y _ _ dry real => related x y (pairs h x y _ _ dry real)

theorem of_gives {P : α → Prop} {Q : β → Prop} {a : Action Host α} {b : Action Host β} (dry : Gives P a)
    (real : Gives Q b) (related : ∀ x y, P x → Q y → R x y) : Pairs R a b :=
  fun h x y _ _ first second => related x y (dry h x (by rw [first])) (real h y (by rw [second]))

theorem map {S : γ → δ → Prop} {a : Action Host α} {b : Action Host β} (pairs : Pairs R a b) {f : α → γ} {g : β → δ}
    (related : ∀ x y, R x y → S (f x) (g y)) :
    Pairs S (do return f (← a)) (do return g (← b)) := by
  intro h x y h₁ h₂ dry real
  obtain ⟨x', _, first, dry⟩ := Action.result_bind_eq_ok.mp dry
  obtain ⟨y', _, second, real⟩ := Action.result_bind_eq_ok.mp real
  obtain ⟨rfl, -⟩ := Action.result_pure_eq_ok.mp dry
  obtain ⟨rfl, -⟩ := Action.result_pure_eq_ok.mp real
  exact related x' y' (pairs h x' y' _ _ first second)

end Pairs

/-! ## Events of the same properties -/

/-- Events of the same properties, one by one. -/
def Alike (announced events : List Event) : Prop := announced.map Event.property = events.map Event.property

theorem Alike.refl (events : List Event) : Alike events events := rfl

theorem Alike.nil_iff {announced events : List Event} (alike : Alike announced events) :
    announced = [] ↔ events = [] := by
  rw [← List.map_eq_nil_iff (f := Event.property), alike, List.map_eq_nil_iff]

/-- The events are one event, of a property. -/
def IsOne (property : String) (events : List Event) : Prop := events.map Event.property = [property]

theorem alike_of_one {property : String} {announced events : List Event} (first : IsOne property announced)
    (second : IsOne property events) : Alike announced events := first.trans second.symm

/-- A change is always one event. -/
theorem gives_one_change (property should message : String) (action : Action Host Unit) (noop : Bool) :
    Gives (IsOne property) (change property should message action noop) := by
  refine .ite (.pure rfl) (.bind (.any _) fun outcome _ => ?_)
  split
  · exact .pure rfl
  · exact .pure rfl
  · exact .throw _

/-- A change is announced where it is made. -/
theorem pairs_change (property should message : String) (action action' : Action Host Unit) :
    Pairs Alike (change property should message action true) (change property should message action' false) :=
  .of_gives (gives_one_change _ _ _ _ _) (gives_one_change _ _ _ _ _) fun _ _ => alike_of_one

namespace ResourceType

/-! ## Notices and commands -/

theorem pairs_applyNotify (r : Resource) : Pairs Alike (applyNotify r true) (applyNotify r false) := by
  refine .after _ fun message => ?_
  refine .of_gives (P := IsOne "message") (Q := IsOne "message") (.pure rfl) ?_ fun _ _ => alike_of_one
  exact .bind (.any _) fun _ _ => .pure rfl

namespace Exec

theorem gives_one_judge (r : Resource) (status : Int) (output : String) :
    Gives (IsOne "returns") (judge r status output) :=
  .bind (.any _) fun _ _ => .bind (.any _) fun _ _ => .ite (.pure rfl) (.bind (.any _) fun _ _ =>
    .bind (.any _) fun _ _ => .pure rfl)

/-- The attempt came to events, and then to one. -/
def Tells (attempt : Except Fault (Except (List Event) (Int × String))) : Prop :=
  ∀ told, attempt = .ok told → ∀ events, told = .error events → IsOne "returns" events

theorem gives_one_conclude {r : Resource} {attempt : Except Fault (Except (List Event) (Int × String))}
    (tells : Tells attempt) : Gives (IsOne "returns") (conclude r attempt) := by
  unfold conclude
  split
  · exact .pure (tells _ rfl _ rfl)
  · exact gives_one_judge r _ _
  · exact .bind (.any _) fun _ _ => .pure rfl
  · exact .throw _

theorem gives_one_attempt {r : Resource} {a : Action Host (Except (List Event) (Int × String))}
    (gives : Gives (fun told => ∀ events, told = .error events → IsOne "returns" events) a) :
    Gives (IsOne "returns") (a.attempt >>= conclude r) :=
  .bind gives.attempt fun _ tells => gives_one_conclude tells

/-- The guard says the same in both runs, and what comes after it is one event. -/
theorem pairs_apply (r : Resource) : Pairs Alike (apply r true) (apply r false) := by
  rw [apply_eq, apply_eq]
  refine .after _ fun created => .ite (.pure rfl) (.afterAttempt _ Alike.refl fun held => ?_)
  cases held with
  | true => exact .same Alike.refl _
  | false =>
    refine .of_gives (gives_one_attempt ?_) (gives_one_attempt ?_) fun _ _ => alike_of_one
    · refine .bind (.any _) fun _ _ => .pure ?_
      rintro _ ⟨⟩
      rfl
    · refine .bind (.any _) fun ended _ => .pure ?_
      rintro _ ⟨⟩

end Exec

end ResourceType

/-! ## What stands where it stood -/

namespace FileSystem

variable {fs after : FileSystem} {cwd place : Place} {path : String} {entry : Entry}

/-- Writing a file leaves the permission bits of one that was there. -/
theorem write_mode {content : ByteArray} (written : fs.write cwd path content = .ok after)
    (led : fs.resolve cwd .target path = .ok (.taken place entry)) :
    after.resolve cwd .target path = .ok (.taken place (.file content entry.mode)) := by
  obtain ⟨spot, mode, led', fits, kept, rfl⟩ := write_puts written
  cases led.symm.trans (resolve_target_of_file led')
  rw [kept entry (found_of_resolve led)]
  exact resolve_insert fits led

/-- A directory is made only where the path leads to nothing. -/
theorem not_taken_of_makeDirectory {name : String} (absolute : Path.isAbsolute name = true)
    (made : fs.makeDirectory cwd (Path.normal name) = .ok after) :
    fs.resolve cwd .target (Path.normal name) ≠ .ok (.taken place entry) := by
  obtain ⟨vacant, mode, -, led, -⟩ := makeDirectory_puts absolute made
  simp [led]

end FileSystem

namespace Host

variable {h h' : Host} {path : String}

/-- What stood at a path still stands there, with the same permission bits. -/
def Steady (path : String) (h h' : Host) : Prop :=
  ∀ entry, h.standing true path = .ok (some entry) →
    ∃ entry', h'.standing true path = .ok (some entry') ∧ entry'.mode = entry.mode

instance (path : String) : Std.Refl (Steady path) := ⟨fun _ entry stands => ⟨entry, stands, rfl⟩⟩

theorem steady_writeText {text : String} (written : (writeText path text).result h = (.ok (), h')) :
    Steady path h h' := by
  intro entry stands
  obtain ⟨place, finds⟩ := standing_eq_some stands
  rw [writeText] at written
  split at written
  · obtain ⟨allowed, files, put, rfl⟩ := change_ok written
    have found : Finds { h with files } .target path place _ := ⟨allowed, FileSystem.write_mode put finds.led⟩
    exact ⟨_, found.standing, rfl⟩
  · obtain ⟨_, _, -, written⟩ := Action.result_bind_eq_ok.mp written
    cases written

theorem steady_makeDirectory {name : String} (absolute : Path.isAbsolute name = true)
    (made : (makeDirectory (Path.normal name)).result h = (.ok (), h')) : Steady (Path.normal name) h h' := by
  intro entry stands
  obtain ⟨place, finds⟩ := standing_eq_some stands
  obtain ⟨-, files, made, -⟩ := change_ok made
  exact absurd finds.led (FileSystem.not_taken_of_makeDirectory absolute made)

end Host

/-! ## What a step leaves -/

section

variable {R : Host → Host → Prop} {h h' : Host} {events : List Event}

/-- The host after a step and its events: without events it is as it was, and it is in a relation to what it was. -/
structure Settles (R : Host → Host → Prop) (events : List Event) (h h' : Host) : Prop where
  kept : events = [] → h' = h
  related : R h h'

variable [Std.Refl R]

theorem Settles.refl (R : Host → Host → Prop) [Std.Refl R] (events : List Event) (h : Host) : Settles R events h h :=
  ⟨fun _ => rfl, Std.Refl.refl h⟩

/-- A change settles in a relation in which its action leaves the host. -/
theorem settles_change {property should message : String} {action : Action Host Unit} (withdraws : Withdraws action)
    (made : ∀ h', action.result h = (.ok (), h') → R h h')
    (run : (change property should message action false).result h = (.ok events, h')) : Settles R events h h' := by
  rcases change_cases withdraws run with ⟨done, rfl⟩ | ⟨rfl, -⟩
  · exact ⟨by simp, made h' done⟩
  · exact .refl R events h'

namespace ResourceType.File

variable {path : String} {r : Resource}

theorem settles_create (made : ∀ h', (Host.makeDirectory path).result h = (.ok (), h') → R h h')
    (run : (create path false).result h = (.ok events, h')) : Settles R events h h' := by
  obtain ⟨directory, _, asked, run⟩ := Action.result_bind_eq_ok.mp run
  obtain ⟨rfl, -⟩ := Host.ask_ok asked
  split at run
  · obtain ⟨-, rfl⟩ := Action.result_pure_eq_ok.mp run
    exact .refl R _ _
  · exact settles_change (Host.withdraws_change _ _) made run

variable (written : ∀ text h', (Host.writeText path text).result h = (.ok (), h') → R h h')

include written

theorem settles_adjust {content : Value} (run : (adjust path content false).result h = (.ok events, h')) :
    Settles R events h h' := by
  obtain ⟨current, _, read, run⟩ := Action.result_bind_eq_ok.mp run
  obtain ⟨rfl, -⟩ := Host.readText_ok read
  split at run
  · split at run
    · obtain ⟨-, rfl⟩ := Action.result_pure_eq_ok.mp run
      exact .refl R _ _
    · obtain ⟨bytes, _, hashed, run⟩ := Action.result_bind_eq_ok.mp run
      rw [Action.result_ofExcept, Prod.mk.injEq] at hashed
      obtain ⟨-, rfl⟩ := hashed
      exact settles_change (Host.withdraws_writeText path _) (written _) run
  · cases run

omit [Std.Refl R] in
theorem related_writeValue {content : Value} (h' : Host) (done : (writeValue path content).result h = (.ok (), h')) :
    R h h' := by
  unfold writeValue at done
  split at done
  · exact written _ _ done
  · split at done
    · cases done
    · exact written _ _ done

theorem settles_place {placed : Option (List Event)} (run : (place path r false).result h = (.ok placed, h')) :
    Settles R (placed.getD []) h h' := by
  obtain ⟨directory, _, asked, run⟩ := Action.result_bind_eq_ok.mp run
  obtain ⟨rfl, -⟩ := Host.ask_ok asked
  split at run
  · split at run
    all_goals
      obtain ⟨-, rfl⟩ := Action.result_pure_eq_ok.mp run
      exact .refl R _ _
  · obtain ⟨present, _, asked, run⟩ := Action.result_bind_eq_ok.mp run
    obtain ⟨rfl, -⟩ := Host.ask_ok asked
    split at run
    · obtain ⟨events, _, writing, done⟩ := Action.result_bind_eq_ok.mp run
      obtain ⟨rfl, rfl⟩ := Action.result_pure_eq_ok.mp done
      exact settles_change (withdraws_writeValue path _) (related_writeValue written) writing
    · split at run
      · obtain ⟨-, rfl⟩ := Action.result_pure_eq_ok.mp run
        exact .refl R _ _
      · obtain ⟨adjusted, _, adjusting, done⟩ := Action.result_bind_eq_ok.mp run
        obtain ⟨rfl, rfl⟩ := Action.result_pure_eq_ok.mp done
        exact settles_adjust written adjusting

end ResourceType.File

end

namespace ResourceType.File

variable {h h' : Host} {events : List Event} {path name : String} {r : Resource}

/-! ## First steps -/

theorem pairs_takeAway (path : String) : Pairs Alike (takeAway path true) (takeAway path false) :=
  .after _ fun _ => .ite (.after _ fun _ => .after _ fun _ => pairs_change _ _ _ _ _)
    (.after _ fun _ => pairs_change _ _ _ _ _)

theorem pairs_remove (path : String) : Pairs Alike (remove path true) (remove path false) := by
  rw [remove_eq, remove_eq]
  exact .after _ fun _ => .ite (pairs_takeAway path) (.after _ fun _ => .ite (pairs_takeAway path) (.pure rfl))

theorem pairs_create (path : String) : Pairs Alike (create path true) (create path false) :=
  .after _ fun _ => .ite (.pure rfl) (pairs_change _ _ _ _ _)

theorem pairs_adjust (path : String) (content : Value) :
    Pairs Alike (adjust path content true) (adjust path content false) := by
  refine .after _ fun current => ?_
  split
  · exact .ite (.pure rfl) (.after _ fun _ => pairs_change _ _ _ _ _)
  · exact .same Alike.refl _

theorem pairs_place (path : String) (r : Resource) :
    Pairs (Option.Rel Alike) (place path r true) (place path r false) := by
  have both {a b : Action Host (List Event)} (pairs : Pairs Alike a b) :
      Pairs (Option.Rel Alike) (do return some (← a)) (do return some (← b)) := pairs.map fun _ _ => .some
  have none : ∀ placed, Option.Rel Alike placed placed := fun placed => by
    cases placed with
    | none => exact .none
    | some events => exact .some (.refl events)
  refine .after _ fun _ => .ite (.same none _) (.after _ fun _ => .ite (both (pairs_change _ _ _ _ _)) ?_)
  split
  · exact .same none _
  · exact both (pairs_adjust path _)

/-! ## Permission bits -/

/-- What stands at a path has other permission bits than a resource asks for. -/
def Differs (r : Resource) (h : Host) (path : String) : Prop :=
  ∃ entry wanted, h.standing true path = .ok (some entry) ∧ modeOf r = .ok (some wanted) ∧ entry.mode ≠ wanted

theorem Differs.steady (differs : Differs r h path) (steady : Host.Steady path h h') : Differs r h' path := by
  obtain ⟨entry, wanted, stands, asked, other⟩ := differs
  obtain ⟨entry', stands', same⟩ := steady entry stands
  exact ⟨entry', wanted, stands', asked, same ▸ other⟩

/-- The step of the permission bits is one event where these differ, and none elsewhere. -/
theorem setMode_told {noop : Bool} (run : (setMode path r noop).result h = (.ok events, h')) :
    (IsOne "mode" events ∧ Differs r h path) ∨ (events = [] ∧ ¬ Differs r h path) := by
  obtain ⟨wanted, _, given, run⟩ := Action.result_bind_eq_ok.mp run
  rw [Action.result_ofExcept, Prod.mk.injEq] at given
  obtain ⟨given, rfl⟩ := given
  split at run
  · obtain ⟨rfl, -⟩ := Action.result_pure_eq_ok.mp run
    refine .inr ⟨rfl, ?_⟩
    rintro ⟨_, _, -, asked, -⟩
    simp [given] at asked
  · next mode =>
    obtain ⟨present, _, asked, run⟩ := Action.result_bind_eq_ok.mp run
    obtain ⟨rfl, found, seen, rfl⟩ := Host.ask_ok asked
    split at run
    · next there =>
      cases found with
      | none => cases there
      | some entry =>
        obtain ⟨place, finds⟩ := Host.standing_eq_some seen
        rw [Action.result_bind_of_ok finds.mode] at run
        split at run
        · next same =>
          obtain ⟨rfl, -⟩ := Action.result_pure_eq_ok.mp run
          refine .inr ⟨rfl, ?_⟩
          rintro ⟨entry', other, stands, asked, differs⟩
          rw [seen, Except.ok.injEq, Option.some.injEq] at stands
          rw [given, Except.ok.injEq, Option.some.injEq] at asked
          subst stands asked
          exact differs same
        · next differs =>
          exact .inl ⟨gives_one_change _ _ _ _ _ _ _ (by rw [run]), entry, mode, seen, given, differs⟩
    · next nothing =>
      obtain ⟨rfl, -⟩ := Action.result_pure_eq_ok.mp run
      refine .inr ⟨rfl, ?_⟩
      rintro ⟨entry, _, stands, -, -⟩
      rw [seen, Except.ok.injEq] at stands
      subst stands
      exact nothing rfl

end ResourceType.File

/-! ## Announcements -/

/-- A dry run announces the events of the run in earnest, but perhaps not the last of them, and announces none only when
that one has none. -/
def Announces (announced events : List Event) : Prop :=
  announced.map Event.property <+: events.map Event.property ∧ (announced = [] ↔ events = [])

theorem Alike.announces {announced events : List Event} (alike : Alike announced events) : Announces announced events :=
  ⟨by rw [alike], alike.nil_iff⟩

namespace ResourceType

namespace File

/-- What is announced after a first step: this leaves the permission bits of what stands there, and makes nothing where
it has no event. -/
theorem announces_setMode {r : Resource} {path : String} {h mid h₁ h₂ : Host} {first first' moded moded' : List Event}
    (alike : Alike first first') (settles : Settles (Host.Steady path) first' h mid)
    (dry : (setMode path r true).result h = (.ok moded, h₁))
    (real : (setMode path r false).result mid = (.ok moded', h₂)) : Announces (first ++ moded) (first' ++ moded') := by
  rcases setMode_told dry with ⟨one, differs⟩ | ⟨rfl, same⟩
  · have one' : IsOne "mode" moded' := by
      rcases setMode_told real with ⟨one', -⟩ | ⟨-, same⟩
      · exact one'
      · exact absurd (differs.steady settles.related) same
    refine Alike.announces ?_
    rw [Alike, List.map_append, List.map_append, alike, one, one']
  · refine ⟨?_, ?_⟩
    · rw [List.append_nil, List.map_append, alike]
      exact List.prefix_append _ _
    · rw [List.append_nil, List.append_eq_nil_iff, alike.nil_iff]
      refine ⟨fun none => ⟨none, ?_⟩, And.left⟩
      rcases setMode_told real with ⟨-, differs⟩ | ⟨none', -⟩
      · exact absurd (settles.kept none ▸ differs) same
      · exact none'

theorem pairs_apply {r : Resource} (absolute : Path.isAbsolute r.ref.name = true) :
    Pairs Announces (apply r true) (apply r false) := by
  unfold apply
  dsimp only
  split
  · exact (pairs_remove _).weaken fun _ _ => Alike.announces
  · intro h announced events h₁ h₂ dry real
    obtain ⟨first, mid, creating, dry⟩ := Action.result_bind_eq_ok.mp dry
    obtain ⟨moded, _, moding, done⟩ := Action.result_bind_eq_ok.mp dry
    obtain ⟨rfl, -⟩ := Action.result_pure_eq_ok.mp done
    obtain ⟨first', mid', creating', real⟩ := Action.result_bind_eq_ok.mp real
    obtain ⟨moded', _, moding', done⟩ := Action.result_bind_eq_ok.mp real
    obtain ⟨rfl, -⟩ := Action.result_pure_eq_ok.mp done
    obtain rfl := (looks_create _).same creating
    have settles := settles_create (fun _ => Host.steady_makeDirectory absolute) creating'
    exact announces_setMode (pairs_create _ _ _ _ _ _ creating creating') settles moding moding'
  · intro h announced events h₁ h₂ dry real
    obtain ⟨placed, mid, placing, dry⟩ := Action.result_bind_eq_ok.mp dry
    obtain ⟨placed', mid', placing', real⟩ := Action.result_bind_eq_ok.mp real
    obtain rfl := (looks_place _ r).same placing
    have settles := settles_place (fun _ _ => Host.steady_writeText) placing'
    cases pairs_place _ r _ _ _ _ _ placing placing' with
    | none =>
      obtain ⟨rfl, -⟩ := Action.result_pure_eq_ok.mp dry
      obtain ⟨rfl, -⟩ := Action.result_pure_eq_ok.mp real
      exact (Alike.refl _).announces
    | some alike =>
      obtain ⟨moded, _, moding, done⟩ := Action.result_bind_eq_ok.mp dry
      obtain ⟨rfl, -⟩ := Action.result_pure_eq_ok.mp done
      obtain ⟨moded', _, moding', done⟩ := Action.result_bind_eq_ok.mp real
      obtain ⟨rfl, -⟩ := Action.result_pure_eq_ok.mp done
      exact announces_setMode alike settles moding moding'

end File

/-- A dry run announces, from the same host, events of the same properties as the run in earnest has, in the same order,
but perhaps not the last of them; and it announces none only when that one has none. -/
theorem apply_announces {t : ResourceType} {r : Resource} {h h₁ h₂ : Host} {announced events : List Event}
    (valid : t.validate r = .ok ()) (dry : (t.apply r true).result h = (.ok announced, h₁))
    (real : (t.apply r false).result h = (.ok events, h₂)) :
    announced.map Event.property <+: events.map Event.property ∧ (announced = [] ↔ events = []) := by
  have pairs : Pairs Announces (t.apply r true) (t.apply r false) := by
    cases t with
    | file => exact File.pairs_apply (File.validFile valid).absolute
    | exec => exact (Exec.pairs_apply r).weaken fun _ _ => Alike.announces
    | notify => exact (pairs_applyNotify r).weaken fun _ _ => Alike.announces
    | stage | classes | schedule | filebucket => exact .pure (Alike.refl []).announces
  exact pairs h _ _ _ _ dry real

open File in
/-- The permission bits of a file that is not there yet are not announced. -/
theorem apply_announces_linkedFile : ResourceType.file.validate linkedFile = .ok () ∧
    ∃ announced events h₁ h₂, (ResourceType.file.apply linkedFile true).result danglingLink = (.ok announced, h₁) ∧
      (ResourceType.file.apply linkedFile false).result danglingLink = (.ok events, h₂) ∧
      announced.map Event.property = ["ensure"] ∧ events.map Event.property = ["ensure", "mode"] ∧
      announced.map Event.property <+: events.map Event.property ∧ (announced = [] ↔ events = []) := by
  have valid : ResourceType.file.validate linkedFile = .ok () := eq_ok_of_toOption (by decide +kernel)
  have dry : (ResourceType.file.apply linkedFile true).result danglingLink = (.ok _, _) :=
    Prod.ext (eq_ok_of_toOption (a := [.announced "ensure" "created"]) (by decide +kernel)) rfl
  have real : (ResourceType.file.apply linkedFile false).result danglingLink = (.ok _, _) :=
    Prod.ext (eq_ok_of_toOption (a := [⟨"ensure", .success, "created"⟩,
      ⟨"mode", .success, "mode changed '0644' to '0600'"⟩]) (by decide +kernel)) rfl
  exact ⟨valid, _, _, _, _, dry, real, rfl, rfl, apply_announces valid dry real⟩

end ResourceType

end Converge
