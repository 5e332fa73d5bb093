import Converge.Proofs.DryRuns
import Converge.Proofs.Standing

/-!
# States of files

What a file resource asks for is there after it was brought about without a failure (`apply_satisfies`), and
bringing it about again finds nothing to do (`apply_again`), unless its content has a carriage return: that is
written as it is but read as a line feed, and so it is written again every time (`apply_returningFile`).
-/

namespace Converge

namespace ResourceType.File

variable {h h' : Host} {events : List Event} {name : String}

/-! ## Nothing, or a directory -/

/-- What is done where something is at the path. -/
def takeAway (path : String) (noop : Bool) : Action Host (List Event) := do
  let directory ← Host.isDirectory path
  let directory ← if directory then do pure !(← Host.isLink path) else pure false
  let action := if directory then Host.removeDirectory path else Host.unlink path
  change "ensure" "absent" "removed" action noop

theorem remove_eq (path : String) (noop : Bool) : remove path noop = (do
    if ← Host.isLink path then takeAway path noop
    else if ← Host.exists? path then takeAway path noop else return []) := rfl

theorem apply_of_absent {r : Resource} (ensure : ensureWord? r = some "absent") (noop : Bool) :
    apply r noop = remove (Path.normal r.ref.name) noop := by
  rw [apply, ensure]
  rfl

theorem takeAway_ok (absolute : Path.isAbsolute name = true)
    (run : (takeAway (Path.normal name) false).result h = (.ok events, h')) (clean : Clean events) :
    h'.Lacks (Path.normal name) := by
  have removed (directory : Bool) {mid : Host} (run : (change "ensure" "absent" "removed" (if directory = true then
      Host.removeDirectory (Path.normal name) else Host.unlink (Path.normal name)) false).result mid = (.ok events, h')) :
      h'.Lacks (Path.normal name) := by
    obtain ⟨done, -⟩ := change_ok run clean
    cases directory with
    | true => exact Host.removeDirectory_ok absolute done
    | false => exact Host.unlink_ok done
  obtain ⟨directory, _, -, run⟩ := Action.result_bind_eq_ok.mp run
  cases directory with
  | true =>
    obtain ⟨_, _, -, run⟩ := Action.result_bind_eq_ok.mp run
    obtain ⟨_, _, -, run⟩ := Action.result_bind_eq_ok.mp run
    exact removed _ run
  | false =>
    obtain ⟨_, _, -, run⟩ := Action.result_bind_eq_ok.mp run
    exact removed _ run

theorem remove_ok (absolute : Path.isAbsolute name = true)
    (run : (remove (Path.normal name) false).result h = (.ok events, h')) (clean : Clean events) :
    h'.Lacks (Path.normal name) := by
  rw [remove_eq] at run
  obtain ⟨link, _, asked, run⟩ := Action.result_bind_eq_ok.mp run
  obtain ⟨rfl, itself, seen, rfl⟩ := Host.ask_ok asked
  split at run
  · exact takeAway_ok absolute run clean
  · next noLink =>
    obtain ⟨present, _, asked, run⟩ := Action.result_bind_eq_ok.mp run
    obtain ⟨rfl, found, looked, rfl⟩ := Host.ask_ok asked
    split at run
    · exact takeAway_ok absolute run clean
    · next nothing =>
      obtain ⟨-, rfl⟩ := Action.result_pure_eq_ok.mp run
      -- There is no link, so what is at the path is what it leads to.
      have same : h.standing true (Path.normal name) = .ok itself :=
        Host.standing_itself seen fun target link => noLink (by rw [link]; rfl)
      rw [looked, Except.ok.injEq] at same
      subst same
      cases found with
      | some entry => exact absurd rfl nothing
      | none =>
        intro follow
        cases follow with
        | true => exact looked
        | false => exact seen

theorem remove_again (lacks : h.Lacks (Path.normal name)) :
    (remove (Path.normal name) false).result h = (.ok [], h) := by
  have link : (Host.isLink (Path.normal name)).result h = (.ok false, h) := by
    rw [Host.isLink, Host.ask_result, lacks]
    rfl
  have present : (Host.exists? (Path.normal name)).result h = (.ok false, h) := by
    rw [Host.exists?, Host.ask_result, lacks]; rfl
  rw [remove, Action.result_bind_of_ok link]
  exact Action.result_bind_of_ok present

theorem create_ok (absolute : Path.isAbsolute name = true)
    (run : (create (Path.normal name) false).result h = (.ok events, h')) (clean : Clean events) :
    ∃ place mode, h'.Finds .target (Path.normal name) place (.directory mode) := by
  obtain ⟨directory, _, asked, run⟩ := Action.result_bind_eq_ok.mp run
  obtain ⟨rfl, found, seen, rfl⟩ := Host.ask_ok asked
  split at run
  · next there =>
    obtain ⟨-, rfl⟩ := Action.result_pure_eq_ok.mp run
    cases found with
    | none => cases there
    | some entry =>
      obtain ⟨place, finds⟩ := Host.standing_eq_some seen
      cases entry with
      | directory mode => exact ⟨place, mode, finds⟩
      | file | link => cases there
  · exact Host.makeDirectory_ok absolute (change_ok run clean).1

theorem create_again {path : String} {place : Place} {mode : Nat}
    (finds : h.Finds .target path place (.directory mode)) : (create path false).result h = (.ok [], h) := by
  rw [create, Action.result_bind_of_ok finds.isDirectory]
  rfl

/-! ## A file -/

/-- A text is the content of what was found: it is what is read there, or what was written there. -/
def HasContent (h : Host) (path : String) (place : Place) (entry : Entry) (s : String) : Prop :=
  ∃ bytes mode, entry = .file bytes mode ∧ ((∃ raw, Text.decode bytes = .ok raw ∧ Text.unifyNewlines raw = s) ∨
    Text.encode s = .ok bytes ∧ h.Finds .file path place entry)

/-- What is found at a path is as a resource asks, if this is a file or anything at all. -/
structure Fits (r : Resource) (h : Host) (path : String) (place : Place) (entry : Entry) : Prop where
  finds : h.Finds .target path place entry
  file : ensureWord? r = some "file" → entry.isDirectory = false
  content : entry.isDirectory = false → ∀ s, contentOf r = some (.text s) → HasContent h path place entry s

/-- A file with a text is at a path. -/
def Contains (h : Host) (path : String) (s : String) : Prop :=
  ∃ place entry, h.Finds .target path place entry ∧ entry.isDirectory = false ∧ HasContent h path place entry s

theorem Contains.fits {path s : String} {r : Resource} (contains : Contains h path s)
    (asked : ∀ other, contentOf r = some (.text other) → other = s) : ∃ place entry, Fits r h path place entry := by
  obtain ⟨place, entry, finds, file, content⟩ := contains
  exact ⟨place, entry, finds, fun _ => file, fun _ other same => asked other same ▸ content⟩

theorem contains_of_written {path text : String} (written : (Host.writeText path text).result h = (.ok (), h')) :
    Contains h' path text := by
  obtain ⟨bytes, place, mode, encoded, finds⟩ := Host.writeText_ok written
  exact ⟨place, _, finds.target, rfl, bytes, mode, rfl, .inr ⟨encoded, finds⟩⟩

theorem adjust_ok {path s : String} (run : (adjust path (.text s) false).result h = (.ok events, h'))
    (clean : Clean events) : Contains h' path s := by
  obtain ⟨current, _, read, run⟩ := Action.result_bind_eq_ok.mp run
  obtain ⟨rfl, bytes, mode, raw, stands, decoded, unified⟩ := Host.readText_ok read
  dsimp only at run
  split at run
  · next same =>
    obtain ⟨-, rfl⟩ := Action.result_pure_eq_ok.mp run
    obtain ⟨place, finds⟩ := Host.standing_eq_some stands
    exact ⟨place, _, finds, rfl, bytes, mode, rfl, .inl ⟨raw, decoded, unified.trans same⟩⟩
  · obtain ⟨digest, _, hashed, run⟩ := Action.result_bind_eq_ok.mp run
    exact contains_of_written (change_ok run clean).1

theorem place_ok {path : String} {r : Resource} (texts : ∀ v, contentOf r = some v → ∃ s, v = .text s)
    (run : (place path r false).result h = (.ok (some events), h')) (clean : Clean events) :
    ∃ place entry, Fits r h' path place entry := by
  obtain ⟨directory, _, asked, run⟩ := Action.result_bind_eq_ok.mp run
  obtain ⟨rfl, found, seen, rfl⟩ := Host.ask_ok asked
  split at run
  · next there =>
    split at run
    · obtain ⟨same, -⟩ := Action.result_pure_eq_ok.mp run
      cases same
    · next other =>
      obtain ⟨-, rfl⟩ := Action.result_pure_eq_ok.mp run
      cases found with
      | none => cases there
      | some entry =>
        obtain ⟨place, finds⟩ := Host.standing_eq_some seen
        cases entry with
        | directory mode => exact ⟨place, _, finds, fun file => absurd file other, fun file => by cases file⟩
        | file | link => cases there
  · next noDirectory =>
    obtain ⟨present, _, asked, run⟩ := Action.result_bind_eq_ok.mp run
    obtain ⟨rfl, again, looked, rfl⟩ := Host.ask_ok asked
    rw [seen, Except.ok.injEq] at looked
    subst looked
    split at run
    · obtain ⟨changed, _, run, done⟩ := Action.result_bind_eq_ok.mp run
      obtain ⟨same, rfl⟩ := Action.result_pure_eq_ok.mp done
      cases same
      obtain ⟨written, -⟩ := change_ok run clean
      cases given : contentOf r with
      | none =>
        rw [given] at written
        have empty := contains_of_written (show (Host.writeText path "").result h = (.ok (), _) from written)
        exact empty.fits fun s same => by simp [given] at same
      | some v =>
        obtain ⟨s, rfl⟩ := texts v given
        rw [given] at written
        exact (contains_of_written written).fits fun other same => by simpa [given] using same.symm
    · next there =>
      split at run
      · next none =>
        obtain ⟨-, rfl⟩ := Action.result_pure_eq_ok.mp run
        cases found with
        | none => exact absurd rfl there
        | some entry =>
          obtain ⟨place, finds⟩ := Host.standing_eq_some seen
          have file : entry.isDirectory = false := by
            cases entry with
            | directory => exact absurd rfl noDirectory
            | file | link => rfl
          exact ⟨place, entry, finds, fun _ => file, fun _ s same => by simp [none] at same⟩
      · next v given =>
        obtain ⟨s, rfl⟩ := texts v given
        obtain ⟨adjusted, _, run, done⟩ := Action.result_bind_eq_ok.mp run
        obtain ⟨same, rfl⟩ := Action.result_pure_eq_ok.mp done
        cases same
        exact (adjust_ok run clean).fits fun other same => by simpa [given] using same.symm

/-- A file resource writes its content every time: it has a carriage return, which is read as a line feed. -/
def Rewrites (r : Resource) (entry : Entry) : Prop :=
  entry.isDirectory = false ∧ ∃ s, contentOf r = some (.text s) ∧ '\r' ∈ s.toList

theorem adjust_again {path s : String} {place : Place} {entry : Entry} (finds : h.Finds .target path place entry)
    (content : HasContent h path place entry s) (plain : '\r' ∉ s.toList) :
    (adjust path (.text s) false).result h = (.ok [], h) := by
  obtain ⟨bytes, mode, rfl, ⟨raw, decoded, same⟩ | ⟨encoded, -⟩⟩ := content
  · rw [adjust, Action.result_bind_of_ok (finds.readText decoded)]
    exact congrArg (Action.result · h) (if_pos same)
  · rw [adjust, Action.result_bind_of_ok (finds.readText (Text.decode_of_encode encoded))]
    exact congrArg (Action.result · h) (if_pos (Text.unifyNewlines_of_plain plain))

theorem place_again {path : String} {r : Resource} {place : Place} {entry : Entry} (fits : Fits r h path place entry)
    (texts : ∀ v, contentOf r = some v → ∃ s, v = .text s) (settled : ¬ Rewrites r entry) :
    (File.place path r false).result h = (.ok (some []), h) := by
  rw [File.place, Action.result_bind_of_ok fits.finds.isDirectory]
  cases kind : entry.isDirectory with
  | true =>
    rw [if_pos rfl, if_neg fun file => by simp [fits.file file] at kind]
    rfl
  | false =>
    rw [if_neg (by simp), Action.result_bind_of_ok fits.finds.exists_, if_neg (by simp)]
    split
    · rfl
    · next v given =>
      obtain ⟨s, rfl⟩ := texts v given
      have same := adjust_again fits.finds (fits.content kind s given) fun cr => settled ⟨kind, s, given, cr⟩
      rw [Action.result_bind_of_ok same]
      rfl

theorem setMode_ok (absolute : Path.isAbsolute name = true) {r : Resource} {place : Place} {entry : Entry}
    (finds : h.Finds .target (Path.normal name) place entry)
    (run : (setMode (Path.normal name) r false).result h = (.ok events, h')) (clean : Clean events) :
    ∃ bits, (∀ purpose, h.Finds purpose (Path.normal name) place entry →
        h'.Finds purpose (Path.normal name) place (entry.withMode bits)) ∧
      ∀ mode, modeOf r = .ok (some mode) → (entry.withMode bits).mode = mode := by
  have same : entry.withMode entry.mode = entry := by cases entry <;> rfl
  obtain ⟨wanted, _, given, run⟩ := Action.result_bind_eq_ok.mp run
  rw [Action.result_ofExcept, Prod.mk.injEq] at given
  obtain ⟨given, rfl⟩ := given
  split at run
  · obtain ⟨-, rfl⟩ := Action.result_pure_eq_ok.mp run
    exact ⟨entry.mode, fun purpose finds => same.symm ▸ finds, fun mode asked => by simp [given] at asked⟩
  · next mode =>
    have known : ∀ other, modeOf r = .ok (some other) → other = mode := fun other asked => by
      simpa [given] using asked.symm
    rw [Action.result_bind_of_ok finds.exists_, if_pos rfl, Action.result_bind_of_ok finds.mode] at run
    split at run
    · next already =>
      obtain ⟨-, rfl⟩ := Action.result_pure_eq_ok.mp run
      exact ⟨entry.mode, fun purpose finds => same.symm ▸ finds,
        fun other asked => by rw [same, already, known other asked]⟩
    · obtain ⟨place', entry', finds', set, kept⟩ := Host.changeMode_ok absolute (change_ok run clean).1
      obtain ⟨rfl, rfl⟩ : place' = place ∧ entry' = entry := by simpa [finds.led] using finds'.led.symm
      exact ⟨mode, kept, fun other asked => by rw [set, known other asked]⟩

theorem setMode_again {path : String} {r : Resource} {place : Place} {entry : Entry}
    (finds : h.Finds .target path place entry)
    {wanted : Option Nat} (given : modeOf r = .ok wanted) (set : ∀ mode, wanted = some mode → entry.mode = mode) :
    (setMode path r false).result h = (.ok [], h) := by
  have read : (Action.ofExcept (modeOf r) : Action Host (Option Nat)).result h = (.ok wanted, h) := by
    rw [Action.result_ofExcept, given]
  rw [setMode, Action.result_bind_of_ok read]
  cases wanted with
  | none => rfl
  | some mode =>
    dsimp only
    rw [Action.result_bind_of_ok finds.exists_, if_pos rfl, Action.result_bind_of_ok finds.mode, if_pos (set mode rfl)]
    rfl

/-! ## The whole resource -/

/-- What a file must satisfy, read off what it is checked for. -/
structure ValidFile (r : Resource) : Prop where
  absolute : Path.isAbsolute r.ref.name = true
  ensure : ensureWord? r = some "present" ∨ ensureWord? r = some "file" ∨ ensureWord? r = some "absent" ∨
    ensureWord? r = some "directory"
  texts : ∀ v, contentOf r = some v → ∃ s, v = .text s
  mode : ∃ mode, modeOf r = .ok mode

theorem mem_ensureWords {r : Resource} {word : String} (asked : ensureWord? r = some word) : word ∈ ensureWords := by
  rw [ensureWord?] at asked
  split at asked
  · split at asked
    · next known =>
      cases asked
      exact List.contains_iff_mem.mp known
    · cases asked
  · cases asked

theorem validFile {r : Resource} (valid : ResourceType.file.validate r = .ok ()) : ValidFile r := by
  obtain ⟨_, -, own⟩ := bind_eq_ok.mp valid
  have checked : validateFile r = .ok () := own
  have mode := modeOf_of_valid checked
  simp only [validateFile] at checked
  split at checked
  · cases checked
  · next absolute =>
    split at checked
    · obtain ⟨_, -, checked⟩ := bind_eq_ok.mp checked
      cases checked
    · next word =>
      obtain ⟨word, asked⟩ := Option.ne_none_iff_exists'.mp (by simpa using word)
      refine ⟨by simpa using absolute, ?_, fun v given => ?_, mode⟩
      · have member := mem_ensureWords asked
        simp only [ensureWords, List.mem_cons, List.not_mem_nil, or_false] at member
        rcases member with rfl | rfl | rfl | rfl <;> simp [asked]
      · rw [given] at checked
        cases v with
        | text s => exact ⟨s, rfl⟩
        | _ => cases checked

/-- How a file resource leaves a host when nothing fails. -/
inductive Reached (r : Resource) (h : Host) : Prop
  | absent (ensure : ensureWord? r = some "absent") (lacks : h.Lacks (Path.normal r.ref.name))
  | directory (ensure : ensureWord? r = some "directory") {place : Place} {bits : Nat}
      (finds : h.Finds .target (Path.normal r.ref.name) place (.directory bits))
      (mode : ∀ mode, modeOf r = .ok (some mode) → bits = mode)
  | file (ensure : ensureWord? r = some "file" ∨ ensureWord? r = some "present") {place : Place} {entry : Entry}
      (fits : Fits r h (Path.normal r.ref.name) place entry) (mode : ∀ mode, modeOf r = .ok (some mode) → entry.mode = mode)

theorem Fits.moded {r : Resource} {path : String} {place : Place} {entry : Entry} (fits : Fits r h path place entry)
    {bits : Nat}
    (kept : ∀ purpose, h.Finds purpose path place entry → h'.Finds purpose path place (entry.withMode bits)) :
    Fits r h' path place (entry.withMode bits) := by
  have kind : (entry.withMode bits).isDirectory = entry.isDirectory := by cases entry <;> rfl
  refine ⟨kept _ fits.finds, fun file => kind.trans (fits.file file), fun file s given => ?_⟩
  obtain ⟨bytes, mode, rfl, read⟩ := fits.content (kind ▸ file) s given
  exact ⟨bytes, bits, rfl, read.imp_right fun ⟨encoded, finds⟩ => ⟨encoded, kept _ finds⟩⟩

theorem reached_of_apply {r : Resource} (valid : ValidFile r) (run : (File.apply r false).result h = (.ok events, h'))
    (clean : Clean events) : Reached r h' := by
  rw [File.apply] at run
  split at run
  · next ensure => exact .absent ensure (remove_ok valid.absolute run clean)
  · next ensure =>
    obtain ⟨created, mid, creating, run⟩ := Action.result_bind_eq_ok.mp run
    obtain ⟨moded, _, moding, done⟩ := Action.result_bind_eq_ok.mp run
    obtain ⟨rfl, rfl⟩ := Action.result_pure_eq_ok.mp done
    obtain ⟨place, mode, finds⟩ := create_ok valid.absolute creating clean.of_append.1
    obtain ⟨bits, kept, set⟩ := setMode_ok valid.absolute finds moding clean.of_append.2
    exact .directory ensure (kept _ finds) set
  · next noAbsent noDirectory =>
    have ensure : ensureWord? r = some "file" ∨ ensureWord? r = some "present" := by
      rcases valid.ensure with word | word | word | word
      · exact .inr word
      · exact .inl word
      · exact absurd word noAbsent
      · exact absurd word noDirectory
    obtain ⟨placed, mid, placing, run⟩ := Action.result_bind_eq_ok.mp run
    split at run
    · obtain ⟨rfl, -⟩ := Action.result_pure_eq_ok.mp run
      exact absurd rfl (clean _ List.mem_cons_self)
    · obtain ⟨moded, _, moding, done⟩ := Action.result_bind_eq_ok.mp run
      obtain ⟨rfl, rfl⟩ := Action.result_pure_eq_ok.mp done
      obtain ⟨place, entry, fits⟩ := place_ok valid.texts placing clean.of_append.1
      obtain ⟨bits, kept, set⟩ := setMode_ok valid.absolute fits.finds moding clean.of_append.2
      exact .file ensure (fits.moded kept) set

/-- A host is as a file resource asks. -/
structure Satisfies (r : Resource) (h : Host) : Prop where
  absent : ensureWord? r = some "absent" → ∀ follow, h.standing follow (Path.normal r.ref.name) = .ok none
  directory : ensureWord? r = some "directory" →
    ∃ mode, h.standing true (Path.normal r.ref.name) = .ok (some (.directory mode))
  file : ensureWord? r = some "file" →
    ∃ bytes mode, h.standing true (Path.normal r.ref.name) = .ok (some (.file bytes mode))
  present : ensureWord? r = some "present" → ∃ entry, h.standing true (Path.normal r.ref.name) = .ok (some entry)
  content : ensureWord? r = some "file" ∨ ensureWord? r = some "present" → ∀ s, contentOf r = some (.text s) →
    (∃ mode, h.standing true (Path.normal r.ref.name) = .ok (some (.directory mode))) ∨
    ∃ bytes mode text, h.standing true (Path.normal r.ref.name) = .ok (some (.file bytes mode)) ∧
      Text.decode bytes = .ok text ∧ Text.unifyNewlines text = Text.unifyNewlines s
  mode : ensureWord? r ≠ some "absent" → ∀ mode, modeOf r = .ok (some mode) →
    ∃ entry, h.standing true (Path.normal r.ref.name) = .ok (some entry) ∧ entry.mode = mode

theorem HasContent.read {path s : String} {place : Place} {entry : Entry} (content : HasContent h path place entry s) :
    ∃ bytes mode text, entry = .file bytes mode ∧ Text.decode bytes = .ok text ∧
      Text.unifyNewlines text = Text.unifyNewlines s := by
  obtain ⟨bytes, mode, same, ⟨raw, decoded, rfl⟩ | ⟨encoded, -⟩⟩ := content
  · exact ⟨bytes, mode, raw, same, decoded, (Text.unifyNewlines_of_plain (Text.plain_unifyNewlines raw)).symm⟩
  · exact ⟨bytes, mode, s, same, Text.decode_of_encode encoded, rfl⟩

theorem Reached.satisfies {r : Resource} (reached : Reached r h) (absolute : Path.isAbsolute r.ref.name = true) :
    Satisfies r h := by
  cases reached with
  | absent ensure lacks =>
    exact ⟨fun _ => lacks, by simp [ensure], by simp [ensure], by simp [ensure], by simp [ensure],
      fun other => absurd ensure other⟩
  | directory ensure finds mode =>
    exact ⟨by simp [ensure], fun _ => ⟨_, finds.standing⟩, by simp [ensure], by simp [ensure],
      by simp [ensure], fun _ wanted asked => ⟨_, finds.standing, mode wanted asked⟩⟩
  | file ensure fits set =>
    next place entry =>
    have kind : entry.isDirectory = false → ∃ bytes mode, entry = .file bytes mode := fun noDirectory => by
      cases entry with
      | file bytes mode => exact ⟨bytes, mode, rfl⟩
      | directory => cases noDirectory
      | link target =>
        exact absurd fits.finds.led
          (FileSystem.not_link_of_resolve (Path.isAbsolute_normal absolute) place target)
    refine ⟨fun other => by simp [other] at ensure, fun other => by simp [other] at ensure, fun word => ?_,
      fun _ => ⟨_, fits.finds.standing⟩, fun _ s given => ?_,
      fun _ wanted asked => ⟨_, fits.finds.standing, set wanted asked⟩⟩
    · obtain ⟨bytes, mode, rfl⟩ := kind (fits.file word)
      exact ⟨bytes, mode, fits.finds.standing⟩
    · cases isDirectory : entry.isDirectory with
      | true =>
        cases entry with
        | directory mode => exact .inl ⟨mode, fits.finds.standing⟩
        | file | link => cases isDirectory
      | false =>
        obtain ⟨bytes, mode, text, rfl, read⟩ := (fits.content isDirectory s given).read
        exact .inr ⟨bytes, mode, text, fits.finds.standing, read⟩

/-- A host on which a file resource was brought about without a failure is as the resource asks. -/
theorem apply_satisfies {r : Resource} (valid : ResourceType.file.validate r = .ok ())
    (run : (ResourceType.file.apply r false).result h = (.ok events, h')) (clean : ∀ e ∈ events, e.outcome ≠ .failure) :
    Satisfies r h' :=
  (reached_of_apply (validFile valid) run clean).satisfies (validFile valid).absolute

/-- A host with an empty directory and a link to nothing in it. -/
def danglingLink : Host :=
  { Host.bare with files := ⟨[([], .directory 0o755), (["d"], .directory 0o755), (["d", "l"], .link "f")], 0o022⟩ }

/-- A file through a link, with a content and permission bits. -/
def linkedFile : Resource :=
  ⟨{ type := "file", name := "/d/l/" },
    Table.ofList [("ensure", .text "file"), ("content", .text "a\n"), ("mode", .int 0o600)]⟩

theorem apply_satisfies_linkedFile : ResourceType.file.validate linkedFile = .ok () ∧
    ∃ events h', (ResourceType.file.apply linkedFile false).result danglingLink = (.ok events, h') ∧
      events.map Event.property = ["ensure", "mode"] ∧ (∀ e ∈ events, e.outcome ≠ .failure) ∧
      Satisfies linkedFile h' ∧ h'.files.get? ["d", "f"] ≠ none := by
  have valid : ResourceType.file.validate linkedFile = .ok () := eq_ok_of_toOption (by decide +kernel)
  have run : (ResourceType.file.apply linkedFile false).result danglingLink = (.ok _, _) :=
    Prod.ext (eq_ok_of_toOption (a := [⟨"ensure", .success, "created"⟩, ⟨"mode", .success, "mode changed '0644' to '0600'"⟩])
      (by decide +kernel)) rfl
  exact ⟨valid, _, _, run, rfl, by decide, apply_satisfies valid run (by decide), by decide +kernel⟩

/-! ## Once more -/

/-- Two hosts are the same, and so is what stands at each place of their files. -/
structure SameEntries (h h' : Host) : Prop where
  entries : ∀ place, h'.files.get? place = h.files.get? place
  rest : h' = { h with files := h'.files }

/-- The content of a resource is asked of a file, and has a carriage return. -/
def Returns (r : Resource) (h : Host) : Prop :=
  (ensureWord? r = some "file" ∨ ensureWord? r = some "present") ∧
    (∃ s, contentOf r = some (.text s) ∧ '\r' ∈ s.toList) ∧
    ∃ bytes mode, h.standing true (Path.normal r.ref.name) = .ok (some (.file bytes mode))

theorem adjust_returns {path s : String} {place : Place} {entry : Entry} (finds : h.Finds .target path place entry)
    (content : HasContent h path place entry s) (returns : '\r' ∈ s.toList) :
    ∃ e h', (adjust path (.text s) false).result h = (.ok [e], h') ∧ e.property = "content" ∧ e.outcome = .success ∧
      SameEntries h h' ∧ h'.Finds .target path place entry := by
  obtain ⟨bytes, mode, rfl, ⟨raw, decoded, rfl⟩ | ⟨encoded, finds'⟩⟩ := content
  · exact absurd returns (Text.plain_unifyNewlines raw)
  · have there : h.files.get? place = some (.file bytes mode) := FileSystem.found_of_resolve finds.led
    have fits : (Entry.file bytes mode).Replaces (h.files.get? place) := by rw [there]; trivial
    have put {purpose : FileSystem.Purpose} (finds : h.Finds purpose path place (.file bytes mode)) :=
      FileSystem.resolve_insert fits finds.led
    have written : (Host.writeText path s).result h =
        (.ok (), { h with files := h.files.insert place (.file bytes mode) }) := by
      rw [Host.writeText, encoded]
      simp only [Host.change, Action.result_of, finds.taken, FileSystem.write, finds'.led]
    have differs : Text.unifyNewlines s ≠ s := fun same => absurd returns (same ▸ Text.plain_unifyNewlines s)
    have hashed : (Action.ofExcept ((Text.encode s).mapError Fault.encoding) : Action Host ByteArray).result h =
        (.ok bytes, h) := by rw [Action.result_ofExcept, encoded]; rfl
    have adjusted : (adjust path (.text s) false).result h = (replaceContent path s false).result h := by
      rw [adjust, Action.result_bind_of_ok (finds.readText (Text.decode_of_encode encoded))]
      exact congrArg (Action.result · h) (if_neg differs)
    rw [replaceContent, Action.result_bind_of_ok hashed] at adjusted
    refine ⟨_, _, adjusted.trans (change_of_ok written), rfl, rfl, ⟨fun other => ?_, rfl⟩, finds.taken, put finds⟩
    rw [FileSystem.get?_insert]
    split
    · next same => rw [same, there]
    · rfl

/-- A file resource that is brought about again finds nothing to do, unless its content has a carriage return. -/
theorem apply_again {r : Resource} (valid : ResourceType.file.validate r = .ok ())
    (run : (ResourceType.file.apply r false).result h = (.ok events, h')) (clean : ∀ e ∈ events, e.outcome ≠ .failure) :
    (¬ Returns r h' → (ResourceType.file.apply r false).result h' = (.ok [], h')) ∧
      (Returns r h' → ∃ e h'', (ResourceType.file.apply r false).result h' = (.ok [e], h'') ∧
        e.property = "content" ∧ e.outcome = .success ∧ SameEntries h' h'') := by
  have valid := validFile valid
  obtain ⟨wanted, given⟩ := valid.mode
  cases reached_of_apply valid run clean with
  | absent ensure lacks =>
    refine ⟨fun _ => ?_, fun returns => by simp [ensure, Returns] at returns⟩
    rw [ResourceType.apply, File.apply]
    split
    · exact remove_again lacks
    · next other => exact absurd (ensure.symm.trans other) (by simp)
    · next noAbsent _ => exact absurd ensure noAbsent
  | directory ensure finds mode =>
    refine ⟨fun _ => ?_, fun returns => by simp [ensure, Returns] at returns⟩
    rw [ResourceType.apply, File.apply]
    split
    · next other => exact absurd (ensure.symm.trans other) (by simp)
    · rw [Action.result_bind_of_ok (create_again finds), Action.result_bind_of_ok
        (setMode_again finds given fun bits same => mode bits (same ▸ given))]
      rfl
    · next _ noDirectory => exact absurd ensure noDirectory
  | file ensure fits mode =>
    next place entry =>
    have moded {h'' : Host} (finds : h''.Finds .target (Path.normal r.ref.name) place entry) :=
      setMode_again finds given fun bits same => mode bits (same ▸ given)
    have placing (h'' : Host) (again : List Event)
        (placed : (File.place (Path.normal r.ref.name) r false).result h' = (.ok (some again), h''))
        (finds : h''.Finds .target (Path.normal r.ref.name) place entry) :
        (ResourceType.file.apply r false).result h' = (.ok again, h'') := by
      rw [ResourceType.apply, File.apply]
      split
      · next other => simp [other] at ensure
      · next other => simp [other] at ensure
      · rw [Action.result_bind_of_ok placed]
        dsimp only
        rw [Action.result_bind_of_ok (moded finds), List.append_nil]
        rfl
    refine ⟨fun noReturn => ?_, fun returns => ?_⟩
    · refine placing h' [] (place_again fits valid.texts fun ⟨kind, s, asked, cr⟩ =>
        noReturn ⟨ensure, ⟨s, asked, cr⟩, ?_⟩) fits.finds
      obtain ⟨bytes, bits, rfl, -⟩ := fits.content kind s asked
      exact ⟨bytes, bits, fits.finds.standing⟩
    · obtain ⟨-, ⟨s, asked, cr⟩, bytes, bits, stands⟩ := returns
      rw [fits.finds.standing, Except.ok.injEq, Option.some.injEq] at stands
      obtain ⟨e, h'', adjusted, property, success, same, finds⟩ :=
        adjust_returns fits.finds (fits.content (by rw [stands]; rfl) s asked) cr
      refine ⟨e, h'', placing h'' [e] ?_ finds, property, success, same⟩
      rw [File.place, Action.result_bind_of_ok fits.finds.isDirectory, stands, if_neg (by simp [Entry.isDirectory]),
        Action.result_bind_of_ok fits.finds.exists_, if_neg (by simp), asked]
      exact Action.result_bind_of_ok adjusted

theorem apply_again_linkedFile : ResourceType.file.validate linkedFile = .ok () ∧
    ∃ events h', (ResourceType.file.apply linkedFile false).result danglingLink = (.ok events, h') ∧
      (∀ e ∈ events, e.outcome ≠ .failure) ∧ events ≠ [] ∧
      (ResourceType.file.apply linkedFile false).result h' = (.ok [], h') := by
  have valid : ResourceType.file.validate linkedFile = .ok () := eq_ok_of_toOption (by decide +kernel)
  have run : (ResourceType.file.apply linkedFile false).result danglingLink = (.ok _, _) :=
    Prod.ext (eq_ok_of_toOption (a := [⟨"ensure", .success, "created"⟩, ⟨"mode", .success, "mode changed '0644' to '0600'"⟩])
      (by decide +kernel)) rfl
  refine ⟨valid, _, _, run, by decide, by decide, (apply_again valid run (by decide)).1 ?_⟩
  rintro ⟨-, ⟨s, asked, cr⟩, -⟩
  have content : contentOf linkedFile = some (.text "a\n") := rfl
  rw [content, Option.some.injEq, Value.text.injEq] at asked
  subst asked
  exact absurd cr (by decide)

/-- A file whose lines end as in some other systems. -/
def returningFile : Resource := ⟨{ type := "file", name := "/f" }, Table.ofList [("content", .text "a\r\n")]⟩

/-- The content is written a second time, although it is there. -/
theorem apply_returningFile : ResourceType.file.validate returningFile = .ok () ∧
    ∃ first h', (ResourceType.file.apply returningFile false).result Transaction.emptyRoot = (.ok first, h') ∧
      (∀ e ∈ first, e.outcome ≠ .failure) ∧
      ∃ second h'', (ResourceType.file.apply returningFile false).result h' = (.ok second, h'') ∧
        second.map Event.property = ["content"] := by
  have valid : ResourceType.file.validate returningFile = .ok () := eq_ok_of_toOption (by decide +kernel)
  have run : (ResourceType.file.apply returningFile false).result Transaction.emptyRoot = (.ok _, _) :=
    Prod.ext (eq_ok_of_toOption (a := [⟨"ensure", .success, "created"⟩]) (by decide +kernel)) rfl
  obtain ⟨second, ended, told⟩ : ∃ second, ((ResourceType.file.apply returningFile false).result
      ((ResourceType.file.apply returningFile false).result Transaction.emptyRoot).2).1.toOption = some second ∧
      second.map Event.property = ["content"] := by
    rw [← Option.map_eq_some_iff]
    decide +kernel
  exact ⟨valid, _, _, run, by decide, second, _, Prod.ext (eq_ok_of_toOption ended) rfl, told⟩

end ResourceType.File

end Converge
