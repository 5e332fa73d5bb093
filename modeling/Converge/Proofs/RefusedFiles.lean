import Converge.Proofs.FileStates

/-!
# Files that could not be set

What the system refuses leaves a host as it was (`Withdraws`), so a file resource whose state or content could not
be set has changed nothing until then. But its permission bits are still set, and where a file stands at its path
they are changed although the resource has failed; that is all that can change (`apply_refused`,
`apply_misplacedDirectory`).
-/

namespace Converge

/-! ## Refusals -/

/-- When the system refuses an action, the host is as it was. -/
def Withdraws (a : Action Host Unit) : Prop := ∀ h h' fault, a.result h = (.error (.system fault), h') → h' = h

namespace Host

theorem withdraws_change (path : String) (f : FileSystem → Place → Except Errno FileSystem) :
    Withdraws (change path f) := by
  intro h h' fault refused
  rw [change, Action.result_of] at refused
  split at refused
  · cases refused
    rfl
  · cases refused
  · cases refused
    rfl

/-- A text that has no bytes leaves an empty file, but then it is not the system that refuses. -/
theorem withdraws_writeText (path text : String) : Withdraws (writeText path text) := by
  rw [writeText]
  split
  · exact withdraws_change path _
  · intro h h' fault refused
    rw [Action.result_bind] at refused
    split at refused
    · cases refused
    · next emptied =>
      cases refused
      exact withdraws_change path _ h _ fault emptied

theorem Finds.unique {h : Host} {purpose : FileSystem.Purpose} {path : String} {place place' : Place}
    {entry entry' : Entry}
    (finds : h.Finds purpose path place entry) (finds' : h.Finds purpose path place' entry') :
    place = place' ∧ entry = entry' := by
  simpa [finds.led] using finds'.led

theorem Finds.changeMode {h : Host} {path : String} {place : Place} {entry : Entry}
    (finds : h.Finds .target path place entry) (mode : Nat) : (Host.changeMode path mode).result h =
      (.ok (), { h with files := h.files.insert place (entry.withMode mode) }) := by
  simp only [Host.changeMode, change, Action.result_of, finds.taken, FileSystem.changeMode, finds.stat]

end Host

variable {h h' : Host} {events : List Event} {name : String}

/-- A change is made, or it is refused and leaves the host as it was. -/
theorem change_cases {property should message : String} {action : Action Host Unit} (withdraws : Withdraws action)
    (run : (change property should message action false).result h = (.ok events, h')) :
    (action.result h = (.ok (), h') ∧ events = [⟨property, .success, message⟩]) ∨
    (h' = h ∧ ∃ reason, events = [.refused property should reason]) := by
  obtain ⟨outcome, mid, tried, run⟩ := Action.result_bind_eq_ok.mp run
  rw [Action.result_attempt, Prod.mk.injEq] at tried
  obtain ⟨ended, rfl⟩ := tried
  cases ended
  split at run
  · next ended =>
    obtain ⟨rfl, rfl⟩ := Action.result_pure_eq_ok.mp run
    exact .inl ⟨Prod.ext ended rfl, rfl⟩
  · next fault ended =>
    obtain ⟨rfl, rfl⟩ := Action.result_pure_eq_ok.mp run
    exact .inr ⟨withdraws h _ fault (Prod.ext ended rfl), _, rfl⟩
  · cases run

/-- Events with a failure come from a change that was refused. -/
theorem change_unclean {property should message : String} {action : Action Host Unit} (withdraws : Withdraws action)
    (run : (change property should message action false).result h = (.ok events, h')) (failed : ¬ Clean events) :
    h' = h := by
  rcases change_cases withdraws run with ⟨-, rfl⟩ | ⟨kept, -⟩
  · exact absurd (by simp [Clean]) failed
  · exact kept

theorem not_clean_of_mem {e : Event} (member : e ∈ events) (failure : e.outcome = .failure) : ¬ Clean events :=
  fun clean => clean e member failure

theorem clean_nil : Clean [] := fun e member => by cases member

namespace ResourceType.File

/-! ## The steps of a file -/

theorem withdraws_writeValue (path : String) (content : Value) : Withdraws (writeValue path content) := by
  unfold writeValue
  split
  · exact Host.withdraws_writeText path _
  · split
    · intro h h' fault refused
      cases refused
    · exact Host.withdraws_writeText path _

theorem takeAway_unclean {path : String} (run : (takeAway path false).result h = (.ok events, h'))
    (failed : ¬ Clean events) : h' = h := by
  have kept (directory : Bool) {mid : Host} (run : (change "ensure" "absent" "removed" (if directory = true then
      Host.removeDirectory path else Host.unlink path) false).result mid = (.ok events, h')) : h' = mid := by
    refine change_unclean ?_ run failed
    split
    · exact Host.withdraws_change path _
    · exact Host.withdraws_change path _
  obtain ⟨directory, _, asked, run⟩ := Action.result_bind_eq_ok.mp run
  obtain ⟨rfl, -⟩ := Host.ask_ok asked
  cases directory with
  | true =>
    obtain ⟨_, _, asked, run⟩ := Action.result_bind_eq_ok.mp run
    obtain ⟨rfl, -⟩ := Host.ask_ok asked
    obtain ⟨_, _, done, run⟩ := Action.result_bind_eq_ok.mp run
    obtain ⟨-, rfl⟩ := Action.result_pure_eq_ok.mp done
    exact kept _ run
  | false =>
    obtain ⟨_, _, done, run⟩ := Action.result_bind_eq_ok.mp run
    obtain ⟨-, rfl⟩ := Action.result_pure_eq_ok.mp done
    exact kept _ run

theorem remove_unclean {path : String} (run : (remove path false).result h = (.ok events, h'))
    (failed : ¬ Clean events) : h' = h := by
  rw [remove_eq] at run
  obtain ⟨link, _, asked, run⟩ := Action.result_bind_eq_ok.mp run
  obtain ⟨rfl, -⟩ := Host.ask_ok asked
  split at run
  · exact takeAway_unclean run failed
  · obtain ⟨present, _, asked, run⟩ := Action.result_bind_eq_ok.mp run
    obtain ⟨rfl, -⟩ := Host.ask_ok asked
    split at run
    · exact takeAway_unclean run failed
    · obtain ⟨rfl, -⟩ := Action.result_pure_eq_ok.mp run
      exact absurd clean_nil failed

/-- A directory is not at a path, as far as the system says. -/
def NoDirectory (h : Host) (path : String) : Prop := ∀ mode, h.standing true path ≠ .ok (some (.directory mode))

theorem noDirectory_of_asked {path : String} {found : Option Entry} (seen : h.standing true path = .ok found)
    (other : ¬ found.any (fun | .directory _ => true | _ => false) = true) : NoDirectory h path := by
  intro mode stands
  rw [seen, Except.ok.injEq] at stands
  subst stands
  exact other rfl

theorem create_unclean {path : String} (run : (create path false).result h = (.ok events, h'))
    (failed : ¬ Clean events) : h' = h ∧ NoDirectory h path := by
  obtain ⟨directory, _, asked, run⟩ := Action.result_bind_eq_ok.mp run
  obtain ⟨rfl, found, seen, rfl⟩ := Host.ask_ok asked
  split at run
  · obtain ⟨rfl, -⟩ := Action.result_pure_eq_ok.mp run
    exact absurd clean_nil failed
  · next other => exact ⟨change_unclean (Host.withdraws_change path _) run failed, noDirectory_of_asked seen other⟩

theorem adjust_unclean {path : String} {content : Value} (run : (adjust path content false).result h = (.ok events, h'))
    (failed : ¬ Clean events) : h' = h := by
  obtain ⟨current, _, read, run⟩ := Action.result_bind_eq_ok.mp run
  obtain ⟨rfl, -⟩ := Host.readText_ok read
  split at run
  · split at run
    · obtain ⟨rfl, -⟩ := Action.result_pure_eq_ok.mp run
      exact absurd clean_nil failed
    · obtain ⟨bytes, _, hashed, run⟩ := Action.result_bind_eq_ok.mp run
      rw [Action.result_ofExcept, Prod.mk.injEq] at hashed
      obtain ⟨-, rfl⟩ := hashed
      exact change_unclean (Host.withdraws_writeText path _) run failed
  · cases run

/-- A directory stands in the place of a file and is left there, or none does and a failure has changed nothing. -/
theorem place_cases {path : String} {r : Resource} {placed : Option (List Event)}
    (run : (place path r false).result h = (.ok placed, h')) :
    (h' = h ∧ (∃ mode, h.standing true path = .ok (some (.directory mode))) ∧ (placed = none ∨ placed = some [])) ∨
    NoDirectory h path ∧ ∃ events, placed = some events ∧ (¬ Clean events → h' = h) := by
  obtain ⟨directory, _, asked, run⟩ := Action.result_bind_eq_ok.mp run
  obtain ⟨rfl, found, seen, rfl⟩ := Host.ask_ok asked
  split at run
  · next there =>
    obtain ⟨mode, rfl⟩ : ∃ mode, found = some (.directory mode) := by
      cases found with
      | none => cases there
      | some entry =>
        cases entry with
        | directory mode => exact ⟨mode, rfl⟩
        | file | link => cases there
    split at run
    · obtain ⟨rfl, rfl⟩ := Action.result_pure_eq_ok.mp run
      exact .inl ⟨rfl, ⟨mode, seen⟩, .inl rfl⟩
    · obtain ⟨rfl, rfl⟩ := Action.result_pure_eq_ok.mp run
      exact .inl ⟨rfl, ⟨mode, seen⟩, .inr rfl⟩
  · next other =>
    refine .inr ⟨noDirectory_of_asked seen other, ?_⟩
    obtain ⟨present, _, asked, run⟩ := Action.result_bind_eq_ok.mp run
    obtain ⟨rfl, -⟩ := Host.ask_ok asked
    split at run
    · obtain ⟨written, _, writing, done⟩ := Action.result_bind_eq_ok.mp run
      obtain ⟨rfl, rfl⟩ := Action.result_pure_eq_ok.mp done
      exact ⟨written, rfl, change_unclean (withdraws_writeValue path _) writing⟩
    · split at run
      · obtain ⟨rfl, -⟩ := Action.result_pure_eq_ok.mp run
        exact ⟨[], rfl, fun failed => absurd clean_nil failed⟩
      · obtain ⟨adjusted, _, adjusting, done⟩ := Action.result_bind_eq_ok.mp run
        obtain ⟨rfl, rfl⟩ := Action.result_pure_eq_ok.mp done
        exact ⟨adjusted, rfl, adjust_unclean adjusting⟩

/-- Permission bits are set where something stands whose bits are others; nothing else happens then, and nothing at all
elsewhere. -/
theorem setMode_cases {path : String} {r : Resource} (run : (setMode path r false).result h = (.ok events, h')) :
    (∀ e ∈ events, e.property = "mode") ∧
    ((h' = h ∧ ∀ place entry wanted, h.Finds .target path place entry → modeOf r = .ok (some wanted) →
        entry.mode = wanted) ∨
      ∃ place entry wanted, h.Finds .target path place entry ∧ modeOf r = .ok (some wanted) ∧ entry.mode ≠ wanted ∧
        h' = { h with files := h.files.insert place (entry.withMode wanted) }) := by
  obtain ⟨wanted, _, given, run⟩ := Action.result_bind_eq_ok.mp run
  rw [Action.result_ofExcept, Prod.mk.injEq] at given
  obtain ⟨given, rfl⟩ := given
  split at run
  · obtain ⟨rfl, rfl⟩ := Action.result_pure_eq_ok.mp run
    exact ⟨by simp, .inl ⟨rfl, fun _ _ other _ asked => by simp [given] at asked⟩⟩
  · next mode =>
    have known : ∀ other, modeOf r = .ok (some other) → other = mode := fun other asked => by
      simpa [given] using asked.symm
    obtain ⟨present, _, asked, run⟩ := Action.result_bind_eq_ok.mp run
    obtain ⟨rfl, found, seen, rfl⟩ := Host.ask_ok asked
    split at run
    · next there =>
      cases found with
      | none => cases there
      | some entry =>
        obtain ⟨place, finds⟩ := Host.standing_eq_some seen
        rw [Action.result_bind_of_ok finds.mode] at run
        split at run
        · next same =>
          obtain ⟨rfl, rfl⟩ := Action.result_pure_eq_ok.mp run
          refine ⟨by simp, .inl ⟨rfl, fun place' entry' other finds' asked => ?_⟩⟩
          obtain ⟨-, rfl⟩ := finds.unique finds'
          rw [same, known other asked]
        · next differs =>
          rw [change_of_ok (finds.changeMode mode)] at run
          cases run
          exact ⟨by simp, .inr ⟨place, entry, mode, finds, given, differs, rfl⟩⟩
    · next nothing =>
      obtain ⟨rfl, rfl⟩ := Action.result_pure_eq_ok.mp run
      refine ⟨by simp, .inl ⟨rfl, fun place entry _ finds _ => ?_⟩⟩
      rw [finds.standing, Except.ok.injEq] at seen
      subst seen
      exact absurd rfl nothing

/-! ## The whole resource -/

/-- A file resource asks for other permission bits than those of the file to which its path leads, and not for nothing
to be there. -/
structure Remodes (r : Resource) (h : Host) (place : Place) (bytes : ByteArray) (mode wanted : Nat) : Prop where
  present : ensureWord? r ≠ some "absent"
  finds : h.Finds .target (Path.normal r.ref.name) place (.file bytes mode)
  asked : modeOf r = .ok (some wanted)
  differs : mode ≠ wanted

/-- The host, where its state and its content could not be set, may still have other permission bits at the place of
one file. -/
def OnlyRemoded (r : Resource) (h h' : Host) : Prop :=
  (h' = h ∧ ∀ place bytes mode wanted, ¬ Remodes r h place bytes mode wanted) ∨
  ∃ place bytes mode wanted, Remodes r h place bytes mode wanted ∧
    h' = { h with files := h.files.insert place (.file bytes wanted) }

/-- What was not set before its permission bits is only changed in these. -/
theorem onlyRemoded_of_setMode {r : Resource} (absolute : Path.isAbsolute r.ref.name = true)
    (present : ensureWord? r ≠ some "absent") (noDirectory : NoDirectory h (Path.normal r.ref.name))
    (run : (setMode (Path.normal r.ref.name) r false).result h = (.ok events, h')) : OnlyRemoded r h h' := by
  rcases (setMode_cases run).2 with ⟨kept, same⟩ | ⟨place, entry, wanted, finds, asked, differs, rfl⟩
  · exact .inl ⟨kept, fun place bytes mode wanted remodes => remodes.differs (same _ _ _ remodes.finds remodes.asked)⟩
  · cases entry with
    | file bytes mode => exact .inr ⟨place, bytes, mode, wanted, ⟨present, finds, asked, differs⟩, rfl⟩
    | directory mode => exact absurd finds.standing (noDirectory mode)
    | link target =>
      exact absurd finds.led (FileSystem.not_link_of_resolve (Path.isAbsolute_normal absolute) place target)

/-- A failure on the state or the content is none of those that come with the permission bits. -/
theorem not_clean_of_refused {first moded : List Event} (bits : ∀ e ∈ moded, e.property = "mode")
    (refused : ∃ e ∈ first ++ moded, e.outcome = .failure ∧ (e.property = "ensure" ∨ e.property = "content")) :
    ¬ Clean first := by
  obtain ⟨e, member, failure, property⟩ := refused
  rcases List.mem_append.mp member with early | late
  · exact not_clean_of_mem early failure
  · rw [bits e late] at property
    simp at property

theorem onlyRemoded_of_apply {r : Resource} (valid : ValidFile r)
    (run : (File.apply r false).result h = (.ok events, h'))
    (refused : ∃ e ∈ events, e.outcome = .failure ∧ (e.property = "ensure" ∨ e.property = "content")) :
    OnlyRemoded r h h' := by
  rw [File.apply] at run
  split at run
  · next ensure =>
    obtain ⟨e, member, failure, -⟩ := refused
    refine .inl ⟨remove_unclean run (not_clean_of_mem member failure), ?_⟩
    exact fun _ _ _ _ remodes => remodes.present ensure
  · next ensure =>
    obtain ⟨created, mid, creating, run⟩ := Action.result_bind_eq_ok.mp run
    obtain ⟨moded, _, moding, done⟩ := Action.result_bind_eq_ok.mp run
    obtain ⟨rfl, rfl⟩ := Action.result_pure_eq_ok.mp done
    obtain ⟨rfl, noDirectory⟩ := create_unclean creating (not_clean_of_refused (setMode_cases moding).1 refused)
    exact onlyRemoded_of_setMode valid.absolute (by simp [ensure]) noDirectory moding
  · next noAbsent _ =>
    obtain ⟨placed, mid, placing, run⟩ := Action.result_bind_eq_ok.mp run
    have placed := place_cases placing
    split at run
    · obtain ⟨-, rfl⟩ := Action.result_pure_eq_ok.mp run
      rcases placed with ⟨rfl, ⟨mode, stands⟩, -⟩ | ⟨-, _, same, -⟩
      · refine .inl ⟨rfl, fun _ _ _ _ remodes => ?_⟩
        rw [remodes.finds.standing] at stands
        cases stands
      · cases same
    · obtain ⟨moded, _, moding, done⟩ := Action.result_bind_eq_ok.mp run
      obtain ⟨rfl, rfl⟩ := Action.result_pure_eq_ok.mp done
      have failed := not_clean_of_refused (setMode_cases moding).1 refused
      rcases placed with ⟨-, -, same | same⟩ | ⟨noDirectory, _, same, kept⟩
      · cases same
      · cases same
        exact absurd clean_nil failed
      · cases same
        obtain rfl := kept failed
        exact onlyRemoded_of_setMode valid.absolute noAbsent noDirectory moding

/-- A file resource of which the state or the content could not be set has changed nothing, unless a file stands at its
path, with other permission bits than those asked for: then these bits of the file are set, and nothing else is changed. -/
theorem apply_refused {r : Resource} (valid : ResourceType.file.validate r = .ok ())
    (run : (ResourceType.file.apply r false).result h = (.ok events, h'))
    (refused : ∃ e ∈ events, e.outcome = .failure ∧ (e.property = "ensure" ∨ e.property = "content")) :
    ((∀ place bytes mode wanted, ¬ Remodes r h place bytes mode wanted) → h' = h) ∧
    ∀ place bytes mode wanted, Remodes r h place bytes mode wanted →
      h.files.get? place = some (.file bytes mode) ∧ h' = { h with files := h'.files } ∧
      ∀ other, h'.files.get? other = if other = place then some (.file bytes wanted) else h.files.get? other := by
  rcases onlyRemoded_of_apply (validFile valid) run refused with ⟨rfl, none⟩ | ⟨place, bytes, mode, wanted, remodes, rfl⟩
  · exact ⟨fun _ => rfl, fun place bytes mode wanted remodes => absurd remodes (none place bytes mode wanted)⟩
  · refine ⟨fun none => absurd remodes (none place bytes mode wanted), fun place' bytes' mode' wanted' remodes' => ?_⟩
    obtain ⟨rfl, same⟩ := remodes.finds.unique remodes'.finds
    obtain ⟨rfl, rfl⟩ := Entry.file.inj same
    obtain rfl : wanted = wanted' := by simpa [remodes.asked] using remodes'.asked
    exact ⟨FileSystem.found_of_resolve remodes.finds.led, rfl, fun other => FileSystem.get?_insert ..⟩

/-- A file with a content and permission bits, in a directory that is not there. -/
def homelessFile : Resource :=
  ⟨{ type := "file", name := "/d/f" }, Table.ofList [("content", .text "a"), ("mode", .text "0600")]⟩

theorem apply_refused_homelessFile : ResourceType.file.validate homelessFile = .ok () ∧
    ∃ events h', (ResourceType.file.apply homelessFile false).result Transaction.emptyRoot = (.ok events, h') ∧
      (∃ e ∈ events, e.outcome = .failure ∧ (e.property = "ensure" ∨ e.property = "content")) ∧
      h' = Transaction.emptyRoot := by
  have valid : ResourceType.file.validate homelessFile = .ok () := eq_ok_of_toOption (by decide +kernel)
  have run : (ResourceType.file.apply homelessFile false).result Transaction.emptyRoot = (.ok _, _) :=
    Prod.ext (eq_ok_of_toOption (a := [.refused "ensure" "file" Errno.noEntry.text]) (by decide +kernel)) rfl
  have refused : ∃ e ∈ [Event.refused "ensure" "file" Errno.noEntry.text],
      e.outcome = .failure ∧ (e.property = "ensure" ∨ e.property = "content") :=
    ⟨_, List.mem_cons_self, rfl, .inl rfl⟩
  have nothing : Transaction.emptyRoot.standing true (Path.normal "/d/f") = .ok none := rfl
  refine ⟨valid, _, _, run, refused, (apply_refused valid run refused).1 fun place bytes mode wanted remodes => ?_⟩
  have stands := remodes.finds.standing
  change Transaction.emptyRoot.standing true (Path.normal "/d/f") = _ at stands
  rw [nothing] at stands
  cases stands

def oneFile : Host :=
  { Host.bare with files := ⟨[([], .directory 0o755), (["f"], .file "a".toUTF8 0o644)], 0o022⟩ }

/-- A directory with permission bits. -/
def misplacedDirectory : Resource :=
  ⟨{ type := "file", name := "/f" }, Table.ofList [("ensure", .text "directory"), ("mode", .text "0700")]⟩

/-- No directory can be made where a file stands, but the file gets the permission bits of the directory. -/
theorem apply_misplacedDirectory : ResourceType.file.validate misplacedDirectory = .ok () ∧
    ∃ events h', (ResourceType.file.apply misplacedDirectory false).result oneFile = (.ok events, h') ∧
      (∃ e ∈ events, e.outcome = .failure ∧ e.property = "ensure") ∧
      (oneFile.files.get? ["f"]).map Entry.mode = some 0o644 ∧ (h'.files.get? ["f"]).map Entry.mode = some 0o700 := by
  have valid : ResourceType.file.validate misplacedDirectory = .ok () := eq_ok_of_toOption (by decide +kernel)
  have run : (ResourceType.file.apply misplacedDirectory false).result oneFile = (.ok _, _) :=
    Prod.ext (eq_ok_of_toOption (a := [.refused "ensure" "directory" Errno.fileExists.text,
      ⟨"mode", .success, "mode changed '0644' to '0700'"⟩]) (by decide +kernel)) rfl
  exact ⟨valid, _, _, run, ⟨_, List.mem_cons_self, rfl, rfl⟩, rfl, by decide +kernel⟩

end ResourceType.File

end Converge
