import Converge.Proofs.Hindrances

/-!
# Footprints of files

Bringing about a file resource changes one place at most, however it ends (`Footprint`): what stands at its path, be it
a link, is removed, a directory is made there, a file is written where the path leads, or what the path leads to gets
other permission bits (`Touches`). Two changes in a row are of one place, because the path leads to what the first has
put there (`Touches.again`). Before a link is removed it is asked whether it leads to a directory; where a name on the
way there is too long, this has no answer, and the link stays (`apply_longLink`).
-/

namespace Converge

namespace FileSystem

variable {fs : FileSystem} {place : Place}

/-- What is to stand at a place is put there, if anything is. -/
def put (fs : FileSystem) (place : Place) : Option Entry → FileSystem
  | none => fs.erase place
  | some entry => fs.insert place entry

theorem get?_put (new : Option Entry) (other : Place) :
    (fs.put place new).get? other = if other = place then new else fs.get? other := by
  cases new <;> simp [put]

theorem put_put (old new : Option Entry) : (fs.put place old).put place new = fs.put place new := by
  cases old <;> cases new <;> simp [put, insert, erase, List.filter_filter]

theorem mask_put (new : Option Entry) : (fs.put place new).mask = fs.mask := by
  cases new <;> rfl

theorem hasChildren_of_get? {name : String} {entry : Entry} (inside : fs.get? (place ++ [name]) = some entry) :
    fs.hasChildren place = true := by
  obtain ⟨before, after, same, -⟩ := List.lookup_eq_some_iff.mp inside
  have member : (place ++ [name], entry) ∈ fs.entries := by simp [same]
  exact List.any_eq_true.mpr ⟨_, member, by simp⟩

end FileSystem

def Entry.IsFile (entry : Entry) : Prop := ∃ bytes bits, entry = .file bytes bits

theorem Entry.replaces_file_iff {bytes : ByteArray} {bits : Nat} {old : Option Entry} :
    (Entry.file bytes bits).Replaces old ↔ ∀ entry, old = some entry → entry.IsFile := by
  rcases old with _ | entry
  · simp [Replaces]
  · cases entry <;> simp [Replaces, IsFile]

/-- Two hosts differ at one place at most, where the second has what is given. -/
structure DiffersAt (place : Place) (new : Option Entry) (h h' : Host) : Prop where
  entries : ∀ other, h'.files.get? other = if other = place then new else h.files.get? other
  mask : h'.files.mask = h.files.mask
  rest : h' = { h with files := h'.files }

theorem differsAt_put (h : Host) (place : Place) (new : Option Entry) :
    DiffersAt place new h { h with files := h.files.put place new } :=
  ⟨FileSystem.get?_put new, FileSystem.mask_put new, rfl⟩

theorem Looks.leaving {α : Type} {R : Host → Host → Prop} [Std.Refl R] {a : Action Host α} (looks : Looks a) :
    Leaves R a := by
  intro h
  rw [looks h h rfl rfl]
  exact Std.Refl.refl h

theorem leaves_change {R : Host → Host → Prop} [Std.Refl R] [IsTrans Host R] {action : Action Host Unit}
    (leaves : Leaves R action) (property should message : String) (noop : Bool) :
    Leaves R (change property should message action noop) := by
  refine .ite (.pure _) (leaves.attempt.bind fun outcome => ?_)
  split
  · exact .pure _
  · exact .pure _
  · exact .throw _

namespace ResourceType.File

variable {r : Resource} {h : Host} {place place' : Place} {new new' : Option Entry}

/-! ## What a file touches -/

/-- What a file resource can do to a host: at a place, which is that of its path or that to which the path leads,
something new is put or what was there is removed. -/
inductive Touches (r : Resource) (h : Host) : Place → Option Entry → Prop
  /-- What stands at the path itself is removed, and of directories only an empty one. -/
  | removed {place : Place} {entry : Entry} (ensure : ensureWord? r = some "absent")
      (stands : h.files.resolve h.cwd .itself (Path.normal r.ref.name) = .ok (.taken place entry))
      (empty : entry.isDirectory = true → h.files.hasChildren place = false) : Touches r h place none
  /-- A directory is made where nothing stands, not even a link. -/
  | made {place : Place} {bits : Nat} (ensure : ensureWord? r = some "directory")
      (vacant : h.files.resolve h.cwd .itself (Path.normal r.ref.name) = .ok (.vacant place)) :
      Touches r h place (some (.directory bits))
  /-- A file is written where the path leads: to another file, or to nothing. -/
  | written {spot : FileSystem.Spot} {bytes : ByteArray} {bits : Nat}
      (ensure : ensureWord? r ≠ some "absent" ∧ ensureWord? r ≠ some "directory")
      (leads : h.files.resolve h.cwd .target (Path.normal r.ref.name) = .ok spot)
      (before : ∀ entry, h.files.get? spot.place = some entry → entry.IsFile) :
      Touches r h spot.place (some (.file bytes bits))
  /-- What the path leads to, which is no link, gets other permission bits. -/
  | moded {place : Place} {entry : Entry} {bits : Nat} (ensure : ensureWord? r ≠ some "absent")
      (leads : h.files.resolve h.cwd .target (Path.normal r.ref.name) = .ok (.taken place entry))
      (noLink : ∀ target, entry ≠ .link target) : Touches r h place (some (entry.withMode bits))

theorem Touches.wanted {entry : Entry} (touches : Touches r h place (some entry)) : ensureWord? r ≠ some "absent" := by
  cases touches with
  | made ensure => simp [ensure]
  | written ensure => exact ensure.1
  | moded ensure => exact ensure

/-- The path leads to what was put there for it. -/
theorem Touches.found {entry : Entry} (touches : Touches r h place (some entry)) :
    (h.files.insert place entry).resolve h.cwd .target (Path.normal r.ref.name) = .ok (.taken place entry) := by
  cases touches with
  | made ensure vacant =>
    next bits =>
    have led := (FileSystem.resolve_target_of_itself (by simp [vacant])).trans vacant
    have nothing : h.files.get? place = none := FileSystem.found_of_resolve vacant
    have fits : (Entry.directory bits).Replaces (h.files.get? place) := by rw [nothing]; trivial
    have put := FileSystem.resolve_insert fits led
    exact put
  | written ensure leads before => exact FileSystem.resolve_insert (Entry.replaces_file_iff.mpr before) leads
  | moded ensure leads noLink =>
    next entry bits =>
    have there : h.files.get? place = some entry := FileSystem.found_of_resolve leads
    have fits : (entry.withMode bits).Replaces (h.files.get? place) := by
      cases entry with
      | link target => exact absurd rfl (noLink target)
      | file | directory => simp [there, Entry.withMode, Entry.Replaces]
    have put := FileSystem.resolve_insert fits leads
    exact put

/-- What was put somewhere might as well have had other permission bits. -/
theorem Touches.withMode {entry : Entry} (touches : Touches r h place (some entry)) (bits : Nat) :
    Touches r h place (some (entry.withMode bits)) := by
  cases touches with
  | made ensure vacant => exact .made ensure vacant
  | written ensure leads before => exact .written ensure leads before
  | moded ensure leads noLink =>
    next entry other =>
    have same : (entry.withMode other).withMode bits = entry.withMode bits := by cases entry <;> rfl
    rw [same]
    exact .moded ensure leads noLink

/-- A file that was put somewhere might as well have been another one. -/
theorem Touches.rewritten {entry : Entry} (touches : Touches r h place (some entry)) (file : entry.IsFile)
    (ensure : ensureWord? r ≠ some "directory") (bytes : ByteArray) (bits : Nat) :
    Touches r h place (some (.file bytes bits)) := by
  cases touches with
  | made other => exact absurd other ensure
  | written both leads before => exact .written both leads before
  | moded asked leads noLink =>
    -- Other permission bits are put on a file only if it is one.
    next before other =>
    have there : h.files.get? place = some before := FileSystem.found_of_resolve leads
    have leaves : before.IsFile := by
      obtain ⟨_, _, same⟩ := file
      cases before with
      | file => exact ⟨_, _, rfl⟩
      | directory | link => cases same
    have written : Touches r h (FileSystem.Spot.taken place before).place (some (.file bytes bits)) :=
      .written ⟨asked, ensure⟩ leads fun entry same => Option.some.inj (there.symm.trans same) ▸ leaves
    exact written

/-- What is touched after something was is the same place, and might as well have been touched at first. -/
theorem Touches.again (first : Touches r h place new)
    (second : Touches r { h with files := h.files.put place new } place' new') :
    place' = place ∧ Touches r h place new' := by
  cases new with
  | none =>
    cases first with
    | removed ensure stands =>
      cases new' with
      | some entry => exact absurd ensure second.wanted
      | none =>
        -- What was removed is not there to be removed once more.
        cases second with
        | removed _ stands' =>
          rcases FileSystem.resolve_erase stands with gone | gone
          · cases gone.symm.trans stands'
          · cases gone.symm.trans stands'
  | some entry =>
    have found := first.found
    cases second with
    | removed ensure => exact absurd ensure first.wanted
    | made ensure vacant =>
      -- Nothing can be made where the path leads to what was put there.
      have led := (FileSystem.resolve_target_of_itself (by simp [vacant])).trans vacant
      cases found.symm.trans led
    | written ensure leads before =>
      cases found.symm.trans leads
      exact ⟨rfl, first.rewritten (before entry (FileSystem.found_of_resolve found)) ensure.2 _ _⟩
    | moded ensure leads noLink =>
      cases found.symm.trans leads
      exact ⟨rfl, first.withMode _⟩

/-! ## What a file leaves -/

/-- A host is left as it was but for a place that the resource touches. -/
def Left (r : Resource) (h h' : Host) : Prop :=
  h' = h ∨ ∃ place new, Touches r h place new ∧ h' = { h with files := h.files.put place new }

instance (r : Resource) : Std.Refl (Left r) := ⟨fun _ => .inl rfl⟩

instance (r : Resource) : IsTrans Host (Left r) := by
  refine ⟨?_⟩
  rintro h _ _ (rfl | ⟨place, new, first, rfl⟩) later
  · exact later
  · rcases later with rfl | ⟨place', new', second, rfl⟩
    · exact .inr ⟨place, new, first, rfl⟩
    · obtain ⟨rfl, touches⟩ := first.again second
      exact .inr ⟨_, new', touches, by simp only [FileSystem.put_put]⟩

theorem leaves_hostChange {path : String} {f : FileSystem → Place → Except Errno FileSystem}
    (touches : ∀ h files, f h.files h.cwd = .ok files →
      ∃ place new, Touches r h place new ∧ files = h.files.put place new) :
    Leaves (Left r) (Host.change path f) := by
  intro h
  rw [Host.change, Action.result_of]
  split
  · exact .inl rfl
  · next changed =>
    obtain ⟨place, new, touches, rfl⟩ := touches h _ changed
    exact .inr ⟨place, new, touches, rfl⟩
  · exact .inl rfl

theorem leaves_unlink (ensure : ensureWord? r = some "absent") :
    Leaves (Left r) (Host.unlink (Path.normal r.ref.name)) := by
  refine leaves_hostChange fun h files unlinked => ?_
  obtain ⟨place, entry, stands, noDirectory, rfl⟩ := FileSystem.unlink_erases unlinked
  exact ⟨place, none, .removed ensure stands (by simp [noDirectory]), rfl⟩

theorem leaves_writeText (ensure : ensureWord? r ≠ some "absent" ∧ ensureWord? r ≠ some "directory")
    (text : String) : Leaves (Left r) (Host.writeText (Path.normal r.ref.name) text) := by
  have written (bytes : ByteArray) : Leaves (Left r) (Host.change (Path.normal r.ref.name) fun files cwd =>
      files.write cwd (Path.normal r.ref.name) bytes) := by
    refine leaves_hostChange fun h files written => ?_
    obtain ⟨spot, mode, led, fits, -, rfl⟩ := FileSystem.write_puts written
    have leads := FileSystem.resolve_target_of_file led
    exact ⟨spot.place, _, .written ensure leads (Entry.replaces_file_iff.mp fits), rfl⟩
  rw [Host.writeText]
  split
  · exact written _
  · exact (written _).bind fun _ => .throw _

theorem leaves_place (ensure : ensureWord? r ≠ some "absent" ∧ ensureWord? r ≠ some "directory") (noop : Bool) :
    Leaves (Left r) (File.place (Path.normal r.ref.name) r noop) := by
  have written (content : Value) : Leaves (Left r) (writeValue (Path.normal r.ref.name) content) := by
    unfold writeValue
    split
    · exact leaves_writeText ensure _
    · exact .ite (.throw _) (leaves_writeText ensure _)
  have adjusted (content : Value) : Leaves (Left r) (adjust (Path.normal r.ref.name) content noop) := by
    refine .bind (Looks.readText _).leaving fun current => ?_
    split
    · exact .ite (.pure _) (.bind (.ofExcept _) fun _ => leaves_change (leaves_writeText ensure _) _ _ _ _)
    · exact .throw _
  refine .bind (Looks.ask _ _ _).leaving fun _ => .ite (.ite (.pure _) (.pure _)) ?_
  refine .bind (Looks.ask _ _ _).leaving fun _ => .ite ?_ ?_
  · exact .bind (leaves_change (written _) _ _ _ _) fun _ => .pure _
  · split
    · exact .pure _
    · exact .bind (adjusted _) fun _ => .pure _

section

variable (absolute : Path.isAbsolute r.ref.name = true)

include absolute

theorem leaves_removeDirectory (ensure : ensureWord? r = some "absent") :
    Leaves (Left r) (Host.removeDirectory (Path.normal r.ref.name)) := by
  refine leaves_hostChange fun h files removed => ?_
  obtain ⟨place, mode, stands, empty, rfl⟩ := FileSystem.removeDirectory_erases absolute removed
  exact ⟨place, none, .removed ensure stands fun _ => empty, rfl⟩

theorem leaves_makeDirectory (ensure : ensureWord? r = some "directory") :
    Leaves (Left r) (Host.makeDirectory (Path.normal r.ref.name)) := by
  refine leaves_hostChange fun h files made => ?_
  obtain ⟨place, mode, vacant, -, rfl⟩ := FileSystem.makeDirectory_puts absolute made
  exact ⟨place, _, .made ensure vacant, rfl⟩

theorem leaves_changeMode (ensure : ensureWord? r ≠ some "absent") (mode : Nat) :
    Leaves (Left r) (Host.changeMode (Path.normal r.ref.name) mode) := by
  refine leaves_hostChange fun h files changed => ?_
  have absolute := Path.isAbsolute_normal absolute
  obtain ⟨place, entry, leads, -, -, rfl⟩ := FileSystem.changeMode_puts absolute changed
  have noLink : ∀ target, entry ≠ .link target := by
    rintro target rfl
    exact FileSystem.not_link_of_resolve absolute place target leads
  exact ⟨place, _, .moded ensure leads noLink, rfl⟩

theorem leaves_remove (ensure : ensureWord? r = some "absent") (noop : Bool) :
    Leaves (Left r) (remove (Path.normal r.ref.name) noop) := by
  have taken : Leaves (Left r) (takeAway (Path.normal r.ref.name) noop) := by
    have removed (directory : Bool) : Leaves (Left r) (change "ensure" "absent" "removed" (if directory = true then
        Host.removeDirectory (Path.normal r.ref.name) else Host.unlink (Path.normal r.ref.name)) noop) :=
      leaves_change (.ite (leaves_removeDirectory absolute ensure) (leaves_unlink ensure)) _ _ _ _
    refine .bind (Looks.ask _ _ _).leaving fun _ => .ite (.bind (Looks.ask _ _ _).leaving fun _ => ?_) ?_
    · exact .bind (.pure _) removed
    · exact .bind (.pure _) removed
  rw [remove_eq]
  refine .bind (Looks.ask _ _ _).leaving fun _ => .ite taken ?_
  exact .bind (Looks.ask _ _ _).leaving fun _ => .ite taken (.pure _)

theorem leaves_create (ensure : ensureWord? r = some "directory") (noop : Bool) :
    Leaves (Left r) (create (Path.normal r.ref.name) noop) :=
  .bind (Looks.ask _ _ _).leaving fun _ =>
    .ite (.pure _) (leaves_change (leaves_makeDirectory absolute ensure) _ _ _ _)

theorem leaves_setMode (ensure : ensureWord? r ≠ some "absent") (noop : Bool) :
    Leaves (Left r) (setMode (Path.normal r.ref.name) r noop) := by
  refine .bind (.ofExcept _) fun mode => ?_
  split
  · exact .pure _
  · refine .bind (Looks.ask _ _ _).leaving fun _ => .ite (.bind (Looks.consult _ _).leaving fun current => ?_) (.pure _)
    exact .ite (.pure _) (leaves_change (leaves_changeMode absolute ensure _) _ _ _ _)

theorem leaves_apply (noop : Bool) : Leaves (Left r) (apply r noop) := by
  unfold apply
  dsimp only
  split
  · next ensure => exact leaves_remove absolute ensure noop
  · next ensure =>
    have other : ensureWord? r ≠ some "absent" := by simp [ensure]
    exact .bind (leaves_create absolute ensure noop) fun _ => .bind (leaves_setMode absolute other noop) fun _ => .pure _
  · next noAbsent noDirectory =>
    refine .bind (leaves_place ⟨noAbsent, noDirectory⟩ noop) fun events => ?_
    split
    · exact .pure _
    · exact .bind (leaves_setMode absolute noAbsent noop) fun _ => .pure _

end

/-! ## What is removed -/

section

variable {path target : String} {bits : Nat}

/-- What a link leads to stands elsewhere. -/
theorem ne_of_link (absolute : Path.isAbsolute path = true)
    (finds : h.Finds .itself path place (.link target)) {there : Place} {entry : Entry}
    (leads : h.files.resolve h.cwd .target path = .ok (.taken there entry)) : there ≠ place := by
  rintro rfl
  have link : h.files.get? there = some (.link target) := FileSystem.found_of_resolve finds.led
  have stood : h.files.get? there = some entry := FileSystem.found_of_resolve leads
  obtain rfl := Option.some.inj (link.symm.trans stood)
  exact FileSystem.not_link_of_resolve absolute there target leads

/-- A link is removed when the system says whether it leads to a directory. -/
theorem remove_link (finds : h.Finds .itself path place (.link target)) {found : Option Entry}
    (seen : h.standing true path = .ok found) : (remove path false).result h =
      (.ok [⟨"ensure", .success, "removed"⟩], { h with files := h.files.erase place }) := by
  have looked : (Host.isLink path).result h = (.ok true, h) := Host.ask_of_standing finds.standing_itself _
  have stat : h.files.stat h.cwd false path = .ok (place, .link target) := FileSystem.stat_eq_ok.mpr finds.led
  have unlinked : (Host.unlink path).result h = (.ok (), { h with files := h.files.erase place }) := by
    refine Host.change_done finds.taken ?_
    rw [FileSystem.unlink, stat]
  have asked : (Host.isDirectory path).result h = (.ok _, h) := Host.ask_of_standing seen _
  rw [remove_eq, Action.result_bind_of_ok looked, if_pos rfl, takeAway, Action.result_bind_of_ok asked]
  dsimp only
  split
  · rw [Action.result_bind_of_ok looked]
    exact change_of_ok unlinked
  · exact change_of_ok unlinked

/-- Otherwise the question stops the resource, and the link stays. -/
theorem remove_unseenLink (finds : h.Finds .itself path place (.link target)) {fault : Fault}
    (unseen : h.standing true path = .error fault) (noop : Bool) : (remove path noop).result h = (.error fault, h) := by
  have looked : (Host.isLink path).result h = (.ok true, h) := Host.ask_of_standing finds.standing_itself _
  rw [remove_eq, Action.result_bind_of_ok looked, if_pos rfl]
  exact Action.result_bind_of_error (Host.ask_of_unanswered unseen _)

/-- A directory in which something stands is not removed, and this is told as a failure. -/
theorem remove_inhabited {root : String} (absolute : Path.isAbsolute root = true)
    (finds : h.Finds .itself (Path.normal root) place (.directory bits)) {name : String} {entry : Entry}
    (inside : h.files.get? (place ++ [name]) = some entry) :
    ∃ errno : Errno, (remove (Path.normal root) false).result h = (.ok [.refused "ensure" "absent" errno.text], h) := by
  have itself := finds.standing_itself
  have seen := Host.standing_itself itself (by simp)
  obtain ⟨errno, refused⟩ : ∃ errno, h.files.removeDirectory h.cwd (Path.normal root) = .error errno := by
    cases removed : h.files.removeDirectory h.cwd (Path.normal root) with
    | error errno => exact ⟨errno, rfl⟩
    | ok files =>
      -- It would be removed from the place where it stands, although something is below.
      obtain ⟨other, mode, stands, empty, -⟩ := FileSystem.removeDirectory_erases absolute removed
      cases finds.led.symm.trans stands
      simp [FileSystem.hasChildren_of_get? inside] at empty
  have kept : (Host.removeDirectory (Path.normal root)).result h = (.error (.system ⟨errno, Path.normal root⟩), h) :=
    Host.change_refused finds.taken refused
  have noLink : (Host.isLink (Path.normal root)).result h = (.ok false, h) := Host.ask_of_standing itself _
  have present : (Host.exists? (Path.normal root)).result h = (.ok true, h) := Host.ask_of_standing seen _
  have directory : (Host.isDirectory (Path.normal root)).result h = (.ok true, h) := Host.ask_of_standing seen _
  refine ⟨errno, ?_⟩
  rw [remove_eq, Action.result_bind_of_ok noLink, if_neg (by simp), Action.result_bind_of_ok present, if_pos rfl,
    takeAway, Action.result_bind_of_ok directory]
  dsimp only
  rw [if_pos rfl, Action.result_bind_of_ok noLink]
  exact change_of_refused kept

end

/-! ## The footprint -/

/-- How far a file resource reaches: in a dry run nowhere, and otherwise to one place that it touches. -/
def Footprint (r : Resource) (noop : Bool) (h h' : Host) : Prop :=
  h' = h ∨ noop = false ∧ ∃ place new, Touches r h place new ∧ DiffersAt place new h h'

theorem footprint_apply (absolute : Path.isAbsolute r.ref.name = true) (noop : Bool) (h : Host) :
    Footprint r noop h ((apply r noop).result h).2 := by
  cases noop with
  | true =>
    refine .inl ?_
    rw [looks_apply r h h rfl rfl]
  | false =>
    rcases leaves_apply absolute false h with same | ⟨place, new, touches, left⟩
    · exact .inl same
    · exact .inr ⟨rfl, place, new, touches, left ▸ differsAt_put h place new⟩

/-- What is put where nothing was is put in a directory that was there. -/
theorem Touches.around {entry : Entry} (touches : Touches r h place (some entry)) (vacant : h.files.get? place = none) :
    ∃ above name mode, place = above ++ [name] ∧ h.files.get? above = some (.directory mode) := by
  cases touches with
  | made ensure led => exact FileSystem.around_of_resolve led
  | written ensure leads =>
    next spot _ _ _ =>
    cases spot with
    | vacant place => exact FileSystem.around_of_resolve leads
    | taken place entry =>
      have there : h.files.get? place = some entry := FileSystem.found_of_resolve leads
      cases vacant.symm.trans there
  | moded ensure leads =>
    have there : h.files.get? place = some _ := FileSystem.found_of_resolve leads
    cases vacant.symm.trans there

/-- So is what is there after a resource was brought about, and was not there before. -/
theorem Footprint.around {noop : Bool} {h' : Host} (footprint : Footprint r noop h h') {entry : Entry}
    (vacant : h.files.get? place = none) (filled : h'.files.get? place = some entry) :
    ∃ above name mode, place = above ++ [name] ∧ h.files.get? above = some (.directory mode) := by
  rcases footprint with rfl | ⟨-, touched, new, touches, differs⟩
  · cases vacant.symm.trans filled
  · have now := differs.entries place
    rw [filled, vacant] at now
    split at now
    · next same =>
      subst same now
      exact touches.around vacant
    · cases now

/-- A valid file resource keeps to its footprint, and what is new stands in a directory that was there. A link that is
not to be there is removed, and nothing else, unless a name on the way behind it is too long: then it stays, and a fault
stops the resource. A directory that is not to be there stays if something stands in it, and that is told. -/
theorem apply_footprint {r : Resource} (valid : ResourceType.file.validate r = .ok ()) :
    (∀ noop h, Footprint r noop h ((ResourceType.file.apply r noop).result h).2) ∧
    (∀ noop h place entry, h.files.get? place = none →
      ((ResourceType.file.apply r noop).result h).2.files.get? place = some entry →
      ∃ above name mode, place = above ++ [name] ∧ h.files.get? above = some (.directory mode)) ∧
    (ensureWord? r = some "absent" →
      (∀ h place target, h.Finds .itself (Path.normal r.ref.name) place (.link target) →
        h.files.resolve h.cwd .target (Path.normal r.ref.name) ≠ .error .nameTooLong →
        ∃ h', (ResourceType.file.apply r false).result h = (.ok [⟨"ensure", .success, "removed"⟩], h') ∧
          DiffersAt place none h h' ∧ ∀ there entry,
            h.files.resolve h.cwd .target (Path.normal r.ref.name) = .ok (.taken there entry) →
            h'.files.get? there = some entry) ∧
      (∀ h place target, h.Finds .itself (Path.normal r.ref.name) place (.link target) →
        h.files.resolve h.cwd .target (Path.normal r.ref.name) = .error .nameTooLong →
        (ResourceType.file.apply r false).result h = (.error (.system ⟨.nameTooLong, Path.normal r.ref.name⟩), h)) ∧
      ∀ h place bits name entry, h.Finds .itself (Path.normal r.ref.name) place (.directory bits) →
        h.files.get? (place ++ [name]) = some entry →
        ∃ errno : Errno, (ResourceType.file.apply r false).result h =
          (.ok [.refused "ensure" "absent" errno.text], h)) := by
  have absolute := (validFile valid).absolute
  have confined := footprint_apply absolute
  refine ⟨confined, fun noop h place entry vacant filled => (confined noop h).around vacant filled, fun ensure => ?_⟩
  have removes : ResourceType.file.apply r false = remove (Path.normal r.ref.name) false := apply_of_absent ensure false
  rw [removes]
  refine ⟨fun h place target finds answered => ?_, fun h place target finds long => ?_,
    fun h place bits name entry finds inside => remove_inhabited absolute finds inside⟩
  · cases seen : h.standing true (Path.normal r.ref.name) with
    | error fault => exact absurd (Host.standing_eq_error_iff.mp seen).2.1 answered
    | ok found =>
      have differs := differsAt_put h place none
      refine ⟨{ h with files := h.files.put place none }, remove_link finds seen, differs, ?_⟩
      intro there entry leads
      have stood : h.files.get? there = some entry := FileSystem.found_of_resolve leads
      rw [differs.entries, if_neg (ne_of_link (Path.isAbsolute_normal absolute) finds leads), stood]
  · exact remove_unseenLink finds (Host.standing_eq_error_iff.mpr ⟨finds.taken, long, rfl⟩) false

/-- A host with a directory, a file in it and a link to the directory. -/
def linkedDirectory : Host :=
  { Host.bare with files := ⟨[([], .directory 0o755), (["d"], .directory 0o755),
      (["d", "f"], .file ByteArray.empty 0o644), (["l"], .link "d")], 0o022⟩ }

def absentLink : Resource := ⟨{ type := "file", name := "/l" }, Table.ofList [("ensure", .text "absent")]⟩

def absentDirectory : Resource := ⟨{ type := "file", name := "/d" }, Table.ofList [("ensure", .text "absent")]⟩

/-- The link is removed and the directory stays. -/
theorem apply_footprint_linkedDirectory :
    ResourceType.file.validate absentLink = .ok () ∧ ResourceType.file.validate absentDirectory = .ok () ∧
    (∃ h', (ResourceType.file.apply absentLink false).result linkedDirectory =
        (.ok [⟨"ensure", .success, "removed"⟩], h') ∧ DiffersAt ["l"] none linkedDirectory h' ∧
        h'.files.get? ["d"] = some (.directory 0o755)) ∧
    ∃ errno : Errno, (ResourceType.file.apply absentDirectory false).result linkedDirectory =
      (.ok [.refused "ensure" "absent" errno.text], linkedDirectory) := by
  have validLink : ResourceType.file.validate absentLink = .ok () := eq_ok_of_toOption (by decide +kernel)
  have validDirectory : ResourceType.file.validate absentDirectory = .ok () := eq_ok_of_toOption (by decide +kernel)
  have link : linkedDirectory.Finds .itself (Path.normal "/l") ["l"] (.link "d") :=
    ⟨eq_ok_of_toOption (by decide +kernel), rfl⟩
  have leads : linkedDirectory.files.resolve linkedDirectory.cwd .target (Path.normal "/l") =
    .ok (.taken ["d"] (.directory 0o755)) := rfl
  have answered :
      linkedDirectory.files.resolve linkedDirectory.cwd .target (Path.normal "/l") ≠ .error .nameTooLong := by
    simp [leads]
  have directory : linkedDirectory.Finds .itself (Path.normal "/d") ["d"] (.directory 0o755) :=
    ⟨eq_ok_of_toOption (by decide +kernel), rfl⟩
  have inside : linkedDirectory.files.get? (["d"] ++ ["f"]) = some (.file ByteArray.empty 0o644) := rfl
  obtain ⟨removed, -, -⟩ := (apply_footprint validLink).2.2 rfl
  obtain ⟨-, -, kept⟩ := (apply_footprint validDirectory).2.2 rfl
  obtain ⟨h', run, differs, untouched⟩ := removed _ _ _ link answered
  exact ⟨validLink, validDirectory, ⟨h', run, differs, untouched _ _ leads⟩, kept _ _ _ _ _ directory inside⟩

def longLink : Host :=
  { Host.bare with files := ⟨[([], .directory 0o755), (["l"], .link Exec.longName)], 0o022⟩ }

/-- The walk behind the link is stopped by the name. -/
theorem resolve_longLink : longLink.files.resolve longLink.cwd .target (Path.normal "/l") = .error .nameTooLong := by
  have tooLong := Exec.tooLong_longName
  have empty : Exec.longName ≠ "" := tooLong.ne (by decide)
  have dot : Exec.longName ≠ "." := tooLong.ne (by decide)
  have dots : Exec.longName ≠ ".." := tooLong.ne (by decide)
  have top : longLink.files.get? [] = some (.directory 0o755) := rfl
  have link : longLink.files.get? ["l"] = some (.link Exec.longName) := rfl
  have walked : longLink.files.resolve longLink.cwd .target (Path.normal "/l") =
      longLink.files.walk .target FileSystem.maxLinks [] ["l"] := by
    have begins : Path.isAbsolute (Path.normal "/l") = true := by decide +kernel
    have steps : FileSystem.steps (Path.normal "/l") = ["l"] := by decide +kernel
    rw [FileSystem.resolve, if_neg (by decide +kernel), if_neg (by decide +kernel), if_pos begins, steps]
  have follows : longLink.files.move .target [] "l" [] = .follow [] [Exec.longName] := by
    have short : ¬ FileSystem.maxName < "l".utf8ByteSize := by decide
    simp [FileSystem.move, FileSystem.enter, top, link, Entry.isDirectory, short,
      Path.not_isAbsolute_of_not_slash tooLong.inside, FileSystem.steps_of_not_slash tooLong.inside empty dot]
  have stops : longLink.files.move .target [] Exec.longName [] = .stop (.error .nameTooLong) := by
    simp [FileSystem.move, top, Entry.isDirectory, empty, dot, dots, tooLong.long]
  rw [walked, FileSystem.walk_cons, follows]
  dsimp only
  rw [FileSystem.maxLinks, FileSystem.onward, FileSystem.walk_cons, stops]

/-- The link is not removed, because the system does not say whether it leads to a directory. -/
theorem apply_longLink : ResourceType.file.validate absentLink = .ok () ∧
    longLink.Finds .itself (Path.normal "/l") ["l"] (.link Exec.longName) ∧
    (ResourceType.file.apply absentLink false).result longLink =
      (.error (.system ⟨.nameTooLong, Path.normal "/l"⟩), longLink) := by
  have finds : longLink.Finds .itself (Path.normal "/l") ["l"] (.link Exec.longName) :=
    ⟨eq_ok_of_toOption (by decide +kernel), rfl⟩
  have unseen : longLink.standing true (Path.normal "/l") = .error (.system ⟨.nameTooLong, Path.normal "/l"⟩) :=
    Host.standing_eq_error_iff.mpr ⟨finds.taken, resolve_longLink, rfl⟩
  have ensure : ensureWord? absentLink = some "absent" := rfl
  have removes : ResourceType.file.apply absentLink false = remove (Path.normal "/l") false :=
    apply_of_absent ensure false
  refine ⟨eq_ok_of_toOption (by decide +kernel), finds, ?_⟩
  rw [removes]
  exact remove_unseenLink finds unseen false

end ResourceType.File

end Converge
