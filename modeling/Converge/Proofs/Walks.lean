import Converge.Proofs.Paths

/-!
# Walks

A walk goes on part by part: one part stops it, leads on, or leads into a link (`walk_cons`). Two walks along
the same parts are compared by comparing their moves (`walk_matches`). So what a change at one place does to a
walk that leads there is known: an entry that can stand where the walk ended is found by the same walk
(`resolve_insert`), and a walk to an entry that is taken away ends without one (`resolve_erase`).
-/

namespace Converge

def Entry.isDirectory : Entry → Bool
  | .directory _ => true
  | _ => false

/-- An entry can stand where another stood, or nothing, and every way through the place stays as it was. -/
def Entry.Replaces : Entry → Option Entry → Prop
  | .file .., none | .file .., some (.file ..) | .directory _, none | .directory _, some (.directory _) => True
  | _, _ => False

theorem Entry.Replaces.cases {entry : Entry} {old : Option Entry} (replaces : entry.Replaces old) :
    (∀ target, entry ≠ .link target) ∧
      (old = none ∨ ∃ before, old = some before ∧ before.isDirectory = entry.isDirectory ∧
        ∀ target, before ≠ .link target) := by
  rcases old with _ | before
  · cases entry <;> simp_all [Replaces]
  · cases entry <;> cases before <;> simp_all [Replaces, isDirectory]

namespace FileSystem

variable {fs fs' : FileSystem} {purpose purpose' : Purpose} {cwd : Place} {path : String}

/-! ## Moves -/

/-- What a part of a path does to a walk. -/
inductive Move where
  | stop (outcome : Except Errno Spot)
  | on (next : Place)
  | follow (next : Place) (todo : List String)

/-- The end of a walk with nothing more to do. -/
def arrive (fs : FileSystem) (here : Place) : Except Errno Spot :=
  match fs.get? here with
  | none => .error .noEntry
  | some entry => .ok (.taken here entry)

/-- A walk comes to a place, or stops with an outcome, of which something is known. -/
def Move.Keeps (I : Place → Prop) (P : Except Errno Spot → Prop) : Move → Prop
  | .stop outcome => P outcome
  | .on next | .follow next _ => I next

/-- Why a walk is stopped: only one for a file is stopped at a directory. -/
def StopsWalk (purpose : Purpose) : Errno → Prop
  | .noEntry | .notDirectory | .loop | .nameTooLong => True
  | .isDirectory => purpose = .file
  | _ => False

/-- What the name of an entry does to a walk in a directory. -/
def enter (fs : FileSystem) (purpose : Purpose) (here : Place) (name : String) (rest : List String) : Move :=
  match fs.get? (here ++ [name]) with
  | none => .stop (if rest.isEmpty then .ok (.vacant (here ++ [name])) else .error .noEntry)
  | some (.link target) =>
    if rest.isEmpty && purpose = .itself then .stop (.ok (.taken (here ++ [name]) (.link target)))
    else .follow (if Path.isAbsolute target then [] else here) (steps target ++ rest)
  | some _ => .on (here ++ [name])

/-- What a part does to a walk that has come so far and has others before it. -/
def move (fs : FileSystem) (purpose : Purpose) (here : Place) (name : String) (rest : List String) : Move :=
  match (fs.get? here).map Entry.isDirectory with
  | none => .stop (.error .noEntry)
  | some false => .stop (.error .notDirectory)
  | some true =>
    if name = "." ∨ name = "" then .on here
    else if name = ".." then .on here.dropLast
    else if purpose = .file ∧ rest = [""] then .stop (.error .isDirectory)
    else if maxName < name.utf8ByteSize then .stop (.error .nameTooLong)
    else fs.enter purpose here name rest

/-- A walk that goes on from a link, if there may be another one. -/
def onward (fs : FileSystem) (purpose : Purpose) : (links : Nat) → Place → List String → Except Errno Spot
  | 0, _, _ => .error .loop
  | links + 1, next, todo => fs.walk purpose links next todo

theorem walk_nil (links : Nat) (here : Place) : fs.walk purpose links here [] = fs.arrive here := by
  cases links <;> rfl

theorem walk_cons (links : Nat) (here : Place) (name : String) (rest : List String) :
    fs.walk purpose links here (name :: rest) = match fs.move purpose here name rest with
      | .stop outcome => outcome
      | .on next => fs.walk purpose links next rest
      | .follow next todo => fs.onward purpose links next todo := by
  have along (follow : Place → List String → Except Errno Spot) :
      fs.walkAlong purpose follow (name :: rest) here = match fs.move purpose here name rest with
        | .stop outcome => outcome
        | .on next => fs.walkAlong purpose follow rest next
        | .follow next todo => follow next todo := by
    rw [walkAlong, move, enter]
    cases fs.get? here with
    | none => rfl
    | some around => cases around with
      | file | link => rfl
      | directory =>
        simp only [Option.map_some, Entry.isDirectory]
        repeat' split
        all_goals simp_all
  cases links <;> exact along _

/-! ## Walks compared -/

/-- A walk goes on as another, or what either comes to is known to be related to the outcome of the other. -/
inductive Matches (I : Place → Prop) (R : Except Errno Spot → Except Errno Spot → Prop) (fs' : FileSystem) :
    (rest : List String) → Move → Move → Prop
  | on {rest : List String} {next : Place} (kept : I next) : Matches I R fs' rest (.on next) (.on next)
  | follow {rest : List String} {next : Place} {todo : List String} (kept : I next) :
      Matches I R fs' rest (.follow next todo) (.follow next todo)
  | stopped {rest : List String} {outcome : Except Errno Spot} {m : Move} (any : ∀ other, R outcome other) :
      Matches I R fs' rest (.stop outcome) m
  | stops {rest : List String} {outcome : Except Errno Spot} {m : Move} (any : ∀ other, R other outcome) :
      Matches I R fs' rest m (.stop outcome)
  | both {rest : List String} {outcome other : Except Errno Spot} (related : R outcome other) :
      Matches I R fs' rest (.stop outcome) (.stop other)
  | arrives {outcome : Except Errno Spot} {next : Place} (related : R outcome (fs'.arrive next)) :
      Matches I R fs' [] (.stop outcome) (.on next)

/-- Walks whose moves match come to related outcomes. -/
theorem walk_matches {I : Place → Prop} {R : Except Errno Spot → Except Errno Spot → Prop}
    (loop : R (.error .loop) (.error .loop)) (ended : ∀ here, I here → R (fs.arrive here) (fs'.arrive here))
    (moves : ∀ here name rest, I here →
      Matches I R fs' rest (fs.move purpose here name rest) (fs'.move purpose' here name rest))
    (links : Nat) (here : Place) (todo : List String) (kept : I here) :
    R (fs.walk purpose links here todo) (fs'.walk purpose' links here todo) := by
  -- Between two links the parts get fewer.
  have along (links : Nat) (onwards : ∀ next todo, I next →
      R (fs.onward purpose links next todo) (fs'.onward purpose' links next todo)) (todo : List String) :
      ∀ here, I here → R (fs.walk purpose links here todo) (fs'.walk purpose' links here todo) := by
    induction todo with
    | nil => simpa only [walk_nil] using ended
    | cons name rest ih =>
      intro here kept
      rw [walk_cons, walk_cons]
      have matched := moves here name rest kept
      revert matched
      generalize fs.move purpose here name rest = m, fs'.move purpose' here name rest = m'
      intro matched
      cases matched with
      | on kept => exact ih _ kept
      | follow kept => exact onwards _ _ kept
      | stopped any => exact any _
      | stops any => exact any _
      | both related => exact related
      | arrives related => simpa only [walk_nil] using related
  induction links generalizing here todo with
  | zero => exact along 0 (fun _ _ _ => loop) todo here kept
  | succ links ih => exact along (links + 1) (fun next todo kept => ih next todo kept) todo here kept

/-- Moves that are the same match when this is so where they stop. -/
theorem Matches.same {I : Place → Prop} {R : Except Errno Spot → Except Errno Spot → Prop} {rest : List String}
    {m : Move}
    (kept : m.Keeps I fun outcome => R outcome outcome) : Matches I R fs' rest m m := by
  cases m with
  | stop outcome => exact .both kept
  | on next => exact .on kept
  | follow next todo => exact .follow kept

/-- What is kept by every move and holds of every stop holds of the outcome. -/
theorem walk_keeps {I : Place → Prop} {P : Except Errno Spot → Prop} (loop : P (.error .loop))
    (ended : ∀ here, I here → P (fs.arrive here))
    (moves : ∀ here name rest, I here → (fs.move purpose here name rest).Keeps I P)
    (links : Nat) (here : Place) (todo : List String) (kept : I here) : P (fs.walk purpose links here todo) :=
  @walk_matches fs fs purpose purpose I (fun outcome _ => P outcome) loop ended
    (fun here name rest kept => .same (moves here name rest kept)) links here todo kept

section

variable {I : Place → Prop} {R : Except Errno Spot → Except Errno Spot → Prop} {here : Place} {name : String}
  {rest : List String}

/-- Moves in directories match when it is so where names are entered. -/
theorem Matches.of_enter (around : (fs'.get? here).map Entry.isDirectory = (fs.get? here).map Entry.isDirectory)
    (fails : ∀ e, R (.error e) (.error e)) (stays : I here) (goesUp : I here.dropLast)
    (asFile : (purpose = .file ↔ purpose' = .file) ∨ purpose' ≠ .file ∧ ∀ other, R (.error .isDirectory) other)
    (enters : Matches I R fs' rest (fs.enter purpose here name rest) (fs'.enter purpose' here name rest)) :
    Matches I R fs' rest (fs.move purpose here name rest) (fs'.move purpose' here name rest) := by
  rw [move, move, around]
  split
  · exact .both (fails _)
  · exact .both (fails _)
  · split
    · exact .on stays
    · split
      · exact .on goesUp
      · rcases asFile with same | ⟨other, any⟩
        · simp only [same]
          split
          · exact .both (fails _)
          · split
            · exact .both (fails _)
            · exact enters
        · simp only [other, false_and, if_false]
          split
          · exact .stopped any
          · split
            · exact .both (fails _)
            · exact enters

/-- What is known of a move that enters a directory, and of what stops a walk, is known of every move. -/
theorem keeps_of_enter {P : Except Errno Spot → Prop} (fails : ∀ e, StopsWalk purpose e → P (.error e)) (stays : I here)
    (goesUp : I here.dropLast)
    (enters : ∀ mode, fs.get? here = some (.directory mode) → (fs.enter purpose here name rest).Keeps I P) :
    (fs.move purpose here name rest).Keeps I P := by
  rw [move]
  split
  · exact fails _ trivial
  · exact fails _ trivial
  · next inside =>
    split
    · exact stays
    · split
      · exact goesUp
      · split
        · next file => exact fails _ file.1
        · split
          · exact fails _ trivial
          · obtain ⟨entry, around, kind⟩ := Option.map_eq_some_iff.mp inside
            cases entry with
            | file | link => cases kind
            | directory mode => exact enters mode around

end

/-! ## What a walk is for -/

/-- A walk that does not end at a link leads where the walk that follows it leads. -/
theorem walk_target_of_itself (links : Nat) (here : Place) (todo : List String)
    (noLink : ∀ place target, fs.walk .itself links here todo ≠ .ok (.taken place (.link target))) :
    fs.walk .target links here todo = fs.walk .itself links here todo := by
  refine walk_matches (I := fun _ => True)
    (R := fun outcome other => (∀ place target, outcome ≠ .ok (.taken place (.link target))) → other = outcome)
    (fun _ => rfl) (fun _ _ _ => rfl) (fun here name rest _ => ?_) links here todo trivial noLink
  refine .of_enter rfl (fun _ _ => rfl) trivial trivial (.inl (by simp)) ?_
  rw [enter, enter]
  split
  · exact .both fun _ => rfl
  · next target _ =>
    cases rest with
    | nil => exact .stopped fun _ noLink => absurd rfl (noLink _ target)
    | cons => exact .follow trivial
  · exact .on trivial

/-- A walk for a file that succeeds leads where the walk for anything leads. -/
theorem walk_target_of_file {links : Nat} {here : Place} {todo : List String} {spot : Spot}
    (led : fs.walk .file links here todo = .ok spot) : fs.walk .target links here todo = .ok spot := by
  refine walk_matches (I := fun _ => True) (R := fun outcome other => ∀ spot, outcome = .ok spot → other = .ok spot)
    (fun _ same => same) (fun _ _ _ same => same) (fun here name rest _ => ?_) links here todo trivial spot led
  refine .of_enter rfl (fun _ _ same => same) trivial trivial (.inr ⟨by simp, fun _ _ same => by cases same⟩) ?_
  rw [enter, enter]
  split
  · exact .both fun _ same => same
  · simpa using .follow trivial
  · exact .on trivial

/-! ## Where walks lead -/

def Spot.place : Spot → Place
  | .taken place _ | .vacant place => place

def Spot.Found (fs : FileSystem) : Spot → Prop
  | .taken place entry => fs.get? place = some entry
  | .vacant place => fs.get? place = none

/-- A walk that enters a directory stops at the place of the name or there is nothing, goes on from there, or follows
a link; where it follows links it does not stop at one. -/
theorem keeps_enter {I : Place → Prop} {P : Except Errno Spot → Prop} {here : Place} {name : String}
    {rest : List String}
    (fails : P (.error .noEntry))
    (stops : ∀ spot : Spot, spot.Found fs → spot.place = here ++ [name] →
      (purpose = .itself ∨ spot = .vacant (here ++ [name])) → P (.ok spot))
    (goesOn : ∀ entry, fs.get? (here ++ [name]) = some entry → (∀ target, entry ≠ .link target) → I (here ++ [name]))
    (follows : ∀ target, I (if Path.isAbsolute target then [] else here)) :
    (fs.enter purpose here name rest).Keeps I P := by
  rw [enter]
  split
  · next vacant =>
    cases rest with
    | nil => exact stops (.vacant _) vacant rfl (.inr rfl)
    | cons => exact fails
  · next target found =>
    split
    · next ends =>
      rw [Bool.and_eq_true, decide_eq_true_eq] at ends
      exact stops (.taken _ _) found rfl (.inl ends.2)
    · exact follows target
  · next entry noLink found => exact goesOn entry found noLink

theorem found_of_walk {links : Nat} {here : Place} {todo : List String} {spot : Spot}
    (led : fs.walk purpose links here todo = .ok spot) : spot.Found fs := by
  refine walk_keeps (I := fun _ => True) (P := fun outcome => ∀ spot, outcome = .ok spot → spot.Found fs)
    (fun _ same => by cases same) (fun here _ spot same => ?_) (fun here name rest _ => ?_) links here todo trivial spot led
  · rw [arrive] at same
    split at same
    · cases same
    · next found =>
      cases same
      exact found
  · refine keeps_of_enter (fun _ _ _ same => by cases same) trivial trivial fun _ _ => keeps_enter
      (fun _ same => by cases same) (fun spot found _ _ _ same => ?_) (fun _ _ _ => trivial) fun _ => trivial
    cases same
    exact found

/-- A vacant place to which a walk leads is in a directory. -/
theorem around_of_walk {links : Nat} {here place : Place} {todo : List String}
    (led : fs.walk purpose links here todo = .ok (.vacant place)) :
    ∃ around name mode, place = around ++ [name] ∧ fs.get? around = some (.directory mode) := by
  refine walk_keeps (I := fun _ => True) (P := fun outcome => outcome = .ok (.vacant place) →
      ∃ around name mode, place = around ++ [name] ∧ fs.get? around = some (.directory mode))
    (fun same => by cases same) (fun here _ same => ?_) (fun here name rest _ => ?_) links here todo trivial led
  · rw [arrive] at same
    split at same
    · cases same
    · cases same
  · refine keeps_of_enter (fun _ _ same => by cases same) trivial trivial fun mode around =>
      keeps_enter (fun same => by cases same) (fun spot _ there _ same => ?_) (fun _ _ _ => trivial) fun _ => trivial
    cases same
    exact ⟨here, name, mode, there, around⟩

theorem stopsWalk_of_walk {links : Nat} {here : Place} {todo : List String} {errno : Errno}
    (stopped : fs.walk purpose links here todo = .error errno) : StopsWalk purpose errno := by
  refine walk_keeps (I := fun _ => True) (P := fun outcome => ∀ errno, outcome = .error errno → StopsWalk purpose errno)
    (fun _ same => by cases same; trivial) (fun here _ _ same => ?_) (fun here name rest _ => ?_) links here todo trivial
    errno stopped
  · rw [arrive] at same
    split at same
    · cases same
      trivial
    · cases same
  · refine keeps_of_enter (fun e stops _ same => ?_) trivial trivial fun _ _ =>
      keeps_enter (fun _ same => by cases same; trivial) (fun _ _ _ _ _ same => by cases same) (fun _ _ _ => trivial)
        fun _ => trivial
    cases same
    exact stops

/-- A walk from a place with no link above it, and itself no link, does not end at a link that it is to follow. -/
theorem not_link_of_walk {links : Nat} {here place : Place} {todo : List String} {target : String}
    (noLinks : ∀ above, above <+: here → ∀ target, fs.get? above ≠ some (.link target)) :
    fs.walk .target links here todo ≠ .ok (.taken place (.link target)) := by
  refine walk_keeps (I := fun here => ∀ above, above <+: here → ∀ target, fs.get? above ≠ some (.link target))
    (P := fun outcome => outcome ≠ .ok (.taken place (.link target))) (by simp) (fun here noLinks same => ?_)
    (fun here name rest noLinks => ?_) links here todo noLinks
  · rw [arrive] at same
    split at same
    · cases same
    · next found =>
      cases same
      exact noLinks _ List.prefix_rfl _ found
  · refine keeps_of_enter (by simp) noLinks (fun above before => noLinks above (before.trans (List.dropLast_prefix here)))
      fun _ _ => keeps_enter (by simp) (fun spot _ _ ends => ?_) (fun entry found noLink above before => ?_)
        fun target => ?_
    · obtain rfl := ends.resolve_left (by simp)
      simp
    · rcases List.prefix_concat_iff.mp before with rfl | before
      · simpa [found] using noLink
      · exact noLinks above before
    · split
      · exact fun above before => noLinks above (before.trans (List.nil_prefix))
      · exact noLinks

/-! ## Entries put and taken away -/

/-- Where nothing changes names are entered as before, and no walk to another place ends. -/
theorem matches_enter {spot : Spot} {Q : Except Errno Spot → Prop} {here : Place} {name : String} {rest : List String}
    (elsewhere : here ++ [name] ≠ spot.place) (same : fs'.get? (here ++ [name]) = fs.get? (here ++ [name])) :
    Matches (fun _ => True) (fun outcome other => outcome = .ok spot → Q other) fs' rest
      (fs.enter purpose here name rest) (fs'.enter purpose here name rest) := by
  have congr : fs'.enter purpose here name rest = fs.enter purpose here name rest := by rw [enter, enter, same]
  rw [congr]
  refine .same (keeps_enter (fun same => by cases same) (fun other _ place _ same => ?_) (fun _ _ _ => trivial)
    fun _ => trivial)
  cases same
  exact absurd place.symm elsewhere

/-- A walk finds an entry that is put where it led, if that can stand there. -/
theorem walk_insert {links : Nat} {here : Place} {todo : List String} {spot : Spot} {entry : Entry}
    (replaces : entry.Replaces (fs.get? spot.place)) (led : fs.walk purpose links here todo = .ok spot) :
    (fs.insert spot.place entry).walk purpose links here todo = .ok (.taken spot.place entry) := by
  obtain ⟨noLink, old⟩ := replaces.cases
  refine walk_matches (I := fun _ => True) (R := fun outcome other => outcome = .ok spot → other = .ok (.taken spot.place entry))
    (fun same => by cases same) (fun here _ same => ?_) (fun here name rest _ => ?_) links here todo trivial led
  · rw [arrive] at same
    split at same
    · cases same
    · cases same
      simp [arrive, Spot.place]
  · by_cases reached : here = spot.place ∧ fs.get? spot.place = none
    · -- Before, there was no way through the place.
      rw [move, reached.1, reached.2]
      exact .stopped fun _ same => by cases same
    refine .of_enter ?_ (fun _ same => by cases same) trivial trivial (.inl Iff.rfl) ?_
    · rw [get?_insert]
      split
      · next at_ =>
        obtain ⟨before, found, alike, -⟩ := old.resolve_left fun vacant => reached ⟨at_, vacant⟩
        rw [at_, found, Option.map_some, Option.map_some, alike]
      · rfl
    · by_cases there : here ++ [name] = spot.place
      · have after : (fs.insert spot.place entry).enter purpose here name rest = .on spot.place := by
          rw [enter, there, get?_insert, if_pos rfl]
          cases entry with
          | link target => exact absurd rfl (noLink target)
          | file | directory => rfl
        rw [after, enter, there]
        rcases old with vacant | ⟨before, found, -, noLink⟩
        · rw [vacant]
          cases rest with
          | nil => exact .arrives fun _ => by simp [arrive]
          | cons => exact .stopped fun _ same => by cases same
        · rw [found]
          cases before with
          | link target => exact absurd rfl (noLink target)
          | file | directory => exact .on trivial
      · exact matches_enter there (by rw [get?_insert, if_neg there])

/-- A walk to an entry that is taken away ends at its place or on the way there. -/
theorem walk_erase {links : Nat} {here place : Place} {todo : List String} {entry : Entry}
    (led : fs.walk purpose links here todo = .ok (.taken place entry)) :
    (fs.erase place).walk purpose links here todo = .ok (.vacant place) ∨
      (fs.erase place).walk purpose links here todo = .error .noEntry := by
  refine walk_matches (I := fun _ => True) (R := fun outcome other => outcome = .ok (.taken place entry) →
      other = .ok (.vacant place) ∨ other = .error .noEntry)
    (fun same => by cases same) (fun here _ same => ?_) (fun here name rest _ => ?_) links here todo trivial led
  · rw [arrive] at same
    split at same
    · cases same
    · cases same
      simp [arrive]
  · by_cases at_ : here = place
    · have gone : (fs.erase place).move purpose here name rest = .stop (.error .noEntry) := by simp [move, at_]
      rw [gone]
      exact .stops fun _ _ => .inr rfl
    refine .of_enter (by rw [get?_erase, if_neg at_]) (fun _ same => by cases same) trivial trivial (.inl Iff.rfl) ?_
    by_cases there : here ++ [name] = place
    · have gone : (fs.erase place).enter purpose here name rest =
          .stop (if rest.isEmpty then .ok (.vacant place) else .error .noEntry) := by simp [enter, there]
      rw [gone]
      refine .stops fun _ _ => ?_
      split
      · exact .inl rfl
      · exact .inr rfl
    · exact matches_enter there (by rw [get?_erase, if_neg there])

/-! ## Where paths lead -/

/-- A path leads where a walk does that is the same for every file system and purpose, unless it is refused. -/
theorem resolve_cases (cwd : Place) (path : String) : (∃ e, ∀ fs purpose, resolve fs cwd purpose path = .error e) ∨
    ∀ fs purpose, resolve fs cwd purpose path =
      fs.walk purpose maxLinks (if Path.isAbsolute path then [] else cwd) (steps path) := by
  by_cases empty : path = ""
  · exact .inl ⟨_, fun fs purpose => by rw [resolve, if_pos empty]⟩
  by_cases long : maxPath ≤ path.utf8ByteSize
  · exact .inl ⟨_, fun fs purpose => by rw [resolve, if_neg empty, if_pos long]⟩
  · exact .inr fun fs purpose => by rw [resolve, if_neg empty, if_neg long]

theorem resolve_target_of_itself
    (noLink : ∀ place target, fs.resolve cwd .itself path ≠ .ok (.taken place (.link target))) :
    fs.resolve cwd .target path = fs.resolve cwd .itself path := by
  obtain ⟨e, refused⟩ | walked := resolve_cases cwd path
  · rw [refused, refused]
  · rw [walked] at noLink
    rw [walked, walked, walk_target_of_itself _ _ _ noLink]

theorem resolve_target_of_file {spot : Spot} (led : fs.resolve cwd .file path = .ok spot) :
    fs.resolve cwd .target path = .ok spot := by
  obtain ⟨e, refused⟩ | walked := resolve_cases cwd path
  · rw [refused] at led
    cases led
  · rw [walked] at led
    rw [walked, walk_target_of_file led]

theorem found_of_resolve {spot : Spot} (led : fs.resolve cwd purpose path = .ok spot) : spot.Found fs := by
  obtain ⟨e, refused⟩ | walked := resolve_cases cwd path
  · rw [refused] at led
    cases led
  · rw [walked] at led
    exact found_of_walk led

/-- A vacant place to which a path leads is in a directory. -/
theorem around_of_resolve {place : Place} (led : fs.resolve cwd purpose path = .ok (.vacant place)) :
    ∃ around name mode, place = around ++ [name] ∧ fs.get? around = some (.directory mode) := by
  obtain ⟨e, refused⟩ | walked := resolve_cases cwd path
  · rw [refused] at led
    cases led
  · rw [walked] at led
    exact around_of_walk led

theorem stopsWalk_of_resolve {errno : Errno} (stopped : fs.resolve cwd purpose path = .error errno) :
    StopsWalk purpose errno := by
  rw [resolve] at stopped
  split at stopped
  · cases stopped
    trivial
  · split at stopped
    · cases stopped
      trivial
    · exact stopsWalk_of_walk stopped

/-- What an absolute path leads to is no link. -/
theorem not_link_of_resolve (absolute : Path.isAbsolute path = true) (place : Place) (target : String) :
    fs.resolve cwd .target path ≠ .ok (.taken place (.link target)) := by
  obtain ⟨e, refused⟩ | walked := resolve_cases cwd path
  · simp [refused]
  · rw [walked, if_pos absolute]
    obtain ⟨name, rest, same⟩ := List.exists_cons_of_ne_nil (steps_ne_nil absolute)
    rw [same]
    cases root : fs.get? [] with
    | none => simp [walk_cons, move, root]
    | some entry =>
      by_cases link : ∃ other, entry = .link other
      · obtain ⟨other, rfl⟩ := link
        simp [walk_cons, move, root, Entry.isDirectory]
      · refine not_link_of_walk fun above before other => ?_
        rw [List.prefix_nil.mp before, root]
        exact fun same => link ⟨other, Option.some.inj same⟩

theorem resolve_withoutEndSlashes {name : String} (absolute : Path.isAbsolute name = true) :
    fs.resolve cwd purpose (Path.withoutEndSlashes (Path.normal name)) = fs.resolve cwd purpose (Path.normal name) := by
  rcases Path.withoutEndSlashes_normal absolute with same | ⟨root, same⟩
  · rw [same]
  · rw [same, root]
    rfl

theorem resolve_insert {spot : Spot} {entry : Entry} (replaces : entry.Replaces (fs.get? spot.place))
    (led : fs.resolve cwd purpose path = .ok spot) :
    (fs.insert spot.place entry).resolve cwd purpose path = .ok (.taken spot.place entry) := by
  obtain ⟨e, refused⟩ | walked := resolve_cases cwd path
  · rw [refused] at led
    cases led
  · rw [walked] at led
    rw [walked, walk_insert replaces led]

theorem resolve_erase {place : Place} {entry : Entry} (led : fs.resolve cwd purpose path = .ok (.taken place entry)) :
    (fs.erase place).resolve cwd purpose path = .ok (.vacant place) ∨
      (fs.erase place).resolve cwd purpose path = .error .noEntry := by
  obtain ⟨e, refused⟩ | walked := resolve_cases cwd path
  · rw [refused] at led
    cases led
  · rw [walked] at led
    rw [walked]
    exact walk_erase led

/-! ## Operations -/

theorem stat_eq_ok {follow : Bool} {place : Place} {entry : Entry} : fs.stat cwd follow path = .ok (place, entry) ↔
    fs.resolve cwd (if follow then .target else .itself) path = .ok (.taken place entry) := by
  rw [stat]
  split <;> simp_all

/-- A file is put where the walk for it leads, and where none but a file was, whose permission bits stay. -/
theorem write_puts {content : ByteArray} {after : FileSystem} (written : fs.write cwd path content = .ok after) :
    ∃ spot mode, fs.resolve cwd .file path = .ok spot ∧ (Entry.file content mode).Replaces (fs.get? spot.place) ∧
      (∀ entry, fs.get? spot.place = some entry → entry.mode = mode) ∧
      after = fs.insert spot.place (.file content mode) := by
  rw [write] at written
  split at written
  · next place before mode led =>
    cases written
    have there : fs.get? place = some (.file before mode) := found_of_resolve led
    refine ⟨_, mode, led, ?_, fun entry same => ?_, rfl⟩
    · rw [Spot.place, there]
      trivial
    · obtain rfl := Option.some.inj (there.symm.trans same)
      rfl
  · cases written
  · cases written
  · next place led =>
    cases written
    have vacant : fs.get? place = none := found_of_resolve led
    refine ⟨_, _, led, ?_, fun entry same => ?_, rfl⟩
    · rw [Spot.place, vacant]
      trivial
    · cases vacant.symm.trans same
  · cases written

/-- A file that was written is found by the walk that wrote it. -/
theorem write_ok {content : ByteArray} {after : FileSystem} (written : fs.write cwd path content = .ok after) :
    ∃ place mode, after.resolve cwd .file path = .ok (.taken place (.file content mode)) := by
  obtain ⟨spot, mode, led, fits, -, rfl⟩ := write_puts written
  exact ⟨spot.place, mode, resolve_insert fits led⟩

/-- A directory is put where nothing stands, not even a link. -/
theorem makeDirectory_puts {name : String} (absolute : Path.isAbsolute name = true) {after : FileSystem}
    (made : fs.makeDirectory cwd (Path.normal name) = .ok after) : ∃ place mode,
      fs.resolve cwd .itself (Path.normal name) = .ok (.vacant place) ∧
      fs.resolve cwd .target (Path.normal name) = .ok (.vacant place) ∧ after = fs.insert place (.directory mode) := by
  rw [makeDirectory, resolve_withoutEndSlashes absolute] at made
  split at made
  · cases made
  · next place led =>
    cases made
    exact ⟨place, _, led, (resolve_target_of_itself (by simp [led])).trans led, rfl⟩
  · cases made

theorem makeDirectory_ok {name : String} (absolute : Path.isAbsolute name = true) {after : FileSystem}
    (made : fs.makeDirectory cwd (Path.normal name) = .ok after) :
    ∃ place mode, after.resolve cwd .target (Path.normal name) = .ok (.taken place (.directory mode)) := by
  obtain ⟨place, mode, -, led, rfl⟩ := makeDirectory_puts absolute made
  have vacant : fs.get? place = none := found_of_resolve led
  have fits : (Entry.directory mode).Replaces (fs.get? place) := by rw [vacant]; trivial
  have put := resolve_insert fits led
  exact ⟨place, mode, put⟩

/-- Nothing is at a path, whether a link at its end is followed or not. -/
theorem stat_erase {place : Place} {entry : Entry} (led : fs.resolve cwd .itself path = .ok (.taken place entry))
    (follow : Bool) : (fs.erase place).stat cwd follow path = .error .noEntry := by
  have gone := resolve_erase led
  have followed : (fs.erase place).resolve cwd .target path = (fs.erase place).resolve cwd .itself path :=
    resolve_target_of_itself (by rcases gone with same | same <;> simp [same])
  have purpose : (fs.erase place).resolve cwd (if follow then .target else .itself) path =
      (fs.erase place).resolve cwd .itself path := by
    cases follow <;> simp [followed]
  rw [stat, purpose]
  rcases gone with same | same <;> rw [same]

/-- What is unlinked is what stands at the path, be it a link, but no directory. -/
theorem unlink_erases {after : FileSystem} (unlinked : fs.unlink cwd path = .ok after) :
    ∃ place entry, fs.resolve cwd .itself path = .ok (.taken place entry) ∧ entry.isDirectory = false ∧
      after = fs.erase place := by
  rw [unlink] at unlinked
  split at unlinked
  · cases unlinked
  · next place entry noDirectory found =>
    cases unlinked
    refine ⟨place, entry, stat_eq_ok.mp found, ?_, rfl⟩
    cases entry with
    | directory mode => exact absurd rfl (noDirectory mode)
    | file | link => rfl
  · cases unlinked

theorem unlink_ok {after : FileSystem} (unlinked : fs.unlink cwd path = .ok after) (follow : Bool) :
    after.stat cwd follow path = .error .noEntry := by
  obtain ⟨place, entry, led, -, rfl⟩ := unlink_erases unlinked
  exact stat_erase led follow

/-- A directory that is taken away stands at the path itself, and nothing is below it. -/
theorem removeDirectory_erases {name : String} (absolute : Path.isAbsolute name = true) {after : FileSystem}
    (removed : fs.removeDirectory cwd (Path.normal name) = .ok after) : ∃ place mode,
      fs.resolve cwd .itself (Path.normal name) = .ok (.taken place (.directory mode)) ∧
      fs.hasChildren place = false ∧ after = fs.erase place := by
  rw [removeDirectory] at removed
  split at removed
  · next place mode found =>
    have led := stat_eq_ok.mp found
    rw [resolve_withoutEndSlashes absolute] at led
    split at removed
    · cases removed
    · cases removed
    · split at removed
      · cases removed
      · split at removed
        · cases removed
        · next empty =>
          cases removed
          exact ⟨place, mode, led, by simpa using empty, rfl⟩
  · cases removed
  · cases removed

theorem removeDirectory_ok {name : String} (absolute : Path.isAbsolute name = true) {after : FileSystem}
    (removed : fs.removeDirectory cwd (Path.normal name) = .ok after) (follow : Bool) :
    after.stat cwd follow (Path.normal name) = .error .noEntry := by
  obtain ⟨place, mode, led, -, rfl⟩ := removeDirectory_erases absolute removed
  exact stat_erase led follow

/-- Other permission bits are put on what the path leads to. -/
theorem changeMode_puts (absolute : Path.isAbsolute path = true) {mode : Nat} {after : FileSystem}
    (changed : fs.changeMode cwd path mode = .ok after) : ∃ place entry,
      fs.resolve cwd .target path = .ok (.taken place entry) ∧ (entry.withMode mode).Replaces (fs.get? place) ∧
      (entry.withMode mode).mode = mode ∧ after = fs.insert place (entry.withMode mode) := by
  rw [changeMode] at changed
  split at changed
  · next place entry found =>
    cases changed
    have led := stat_eq_ok.mp found
    have there : fs.get? place = some entry := found_of_resolve led
    cases entry with
    | link target => exact absurd led (not_link_of_resolve absolute place target)
    | file | directory => exact ⟨place, _, led, by simp [there, Entry.withMode, Entry.Replaces], rfl, rfl⟩
  · cases changed

/-- Other permission bits are those of what the path leads to, and nothing else is. -/
theorem changeMode_ok (absolute : Path.isAbsolute path = true) {mode : Nat} {after : FileSystem}
    (changed : fs.changeMode cwd path mode = .ok after) : ∃ place entry,
      fs.resolve cwd .target path = .ok (.taken place entry) ∧ (entry.withMode mode).mode = mode ∧
      (∀ purpose, fs.resolve cwd purpose path = .ok (.taken place entry) →
        after.resolve cwd purpose path = .ok (.taken place (entry.withMode mode))) := by
  obtain ⟨place, entry, led, fits, set, rfl⟩ := changeMode_puts absolute changed
  exact ⟨place, entry, led, set, fun purpose led => resolve_insert fits led⟩

end FileSystem

end Converge
