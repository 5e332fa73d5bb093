import Converge.Proofs.LoadedValues
import Converge.Proofs.Sameness
import Converge.Proofs.ScriptFaults

/-!
# Scripts of records

What a record has to be is told without the reader of records (`IsRecord`), and the reader accepts a
document exactly when all of its records are of this form (`ofValue_iff`). So a script of records is
carried out as a whole or not at all: one record that is of no form keeps every call from being made
(`run_allOrNothing`).
-/

namespace Converge

/-- A value counts as a text: it is one, or bytes of UTF-8. -/
inductive Value.IsText : Value → String → Prop
  | text (s : String) : IsText (.text s) s
  | bytes {b : ByteArray} {s : String} (decodes : Text.decode b = .ok s) : IsText (.bytes b) s

/-- A value counts as a table: a mapping whose keys count as texts. -/
def Value.IsTable (v : Value) (t : Parameters) : Prop :=
  ∃ entries rows, v.entries? = some entries ∧
    List.Forall₂ (fun e (row : String × Value) => e.1.IsText row.1 ∧ row.2 = e.2) entries rows ∧ t = Table.ofList rows

namespace Validation

theorem readText_iff {v : Value} {s : String} : readText v = .ok s ↔ v.IsText s := by
  constructor
  · intro read
    cases v with
    | text t =>
      obtain rfl := readText_text.mp read
      exact .text t
    | bytes b =>
      rw [readText] at read
      split at read
      · next t decodes =>
        cases read
        exact .bytes decodes
      · cases read
    | _ => cases read
  · rintro (s | decodes)
    · exact readText_text.mpr rfl
    · rw [readText, decodes]

/-- Values are read one by one. -/
theorem each_ok_iff {α β : Type} {read : α → Checked β} {l : List α} {bs : List β} :
    each read l = .ok bs ↔ List.Forall₂ (fun a b => read a = .ok b) l bs := by
  induction l generalizing bs with
  | nil => simp [each, eq_comm]
  | cons a l ih =>
    rw [each, map_ok_iff, List.forall₂_cons_left_iff]
    constructor
    · rintro ⟨⟨b, rest⟩, both, rfl⟩
      obtain ⟨first, later⟩ := both_ok_iff.mp both
      exact ⟨b, rest, first, ih.mp later, rfl⟩
    · rintro ⟨b, rest, first, later, rfl⟩
      exact ⟨(b, rest), both_ok_iff.mpr ⟨first, ih.mpr later⟩, rfl⟩

/-- A list has partners in order exactly when each of its members has one. -/
theorem exists_forall₂_iff {α β : Type} {R : α → β → Prop} {l : List α} :
    (∃ bs, List.Forall₂ R l bs) ↔ ∀ a ∈ l, ∃ b, R a b := by
  induction l with
  | nil => simp
  | cons a l ih =>
    rw [List.forall_mem_cons, ← ih]
    simp only [List.forall₂_cons_left_iff]
    constructor
    · rintro ⟨_, b, bs, first, later, rfl⟩
      exact ⟨⟨b, first⟩, bs, later⟩
    · rintro ⟨⟨b, first⟩, bs, later⟩
      exact ⟨_, b, bs, first, later, rfl⟩

theorem readTable_iff {path : List String} {v : Value} {t : Parameters} : readTable path v = .ok t ↔ v.IsTable t := by
  rw [readTable, Value.IsTable]
  cases given : v.entries? with
  | none => simp
  | some entries =>
    have row (e : Value × Value) (row : String × Value) :
        (atPath (path ++ [keyStep e.1, "[key]"]) (readText e.1)).map (fun key => (key, e.2)) = .ok row ↔
          e.1.IsText row.1 ∧ row.2 = e.2 := by
      rw [map_ok_iff, atPath]
      simp only [mapError_ok_iff, readText_iff]
      constructor
      · rintro ⟨key, counts, rfl⟩
        exact ⟨counts, rfl⟩
      · rintro ⟨counts, same⟩
        exact ⟨row.1, counts, by rw [← same]⟩
    simp only [map_ok_iff, each_ok_iff, row]
    constructor
    · rintro ⟨rows, all, rfl⟩
      exact ⟨entries, rows, rfl, all, rfl⟩
    · rintro ⟨_, rows, ⟨⟩, all, rfl⟩
      exact ⟨rows, all, rfl⟩

end Validation

namespace Instruction

open Validation

/-! ## What a record has to be -/

/-- The parameters of a record: left out, null, or a table. -/
inductive IsParams : Option Value → Option Parameters → Prop
  | absent : IsParams none none
  | null : IsParams (some .null) none
  | table {v : Value} {t : Parameters} (counts : v.IsTable t) : IsParams (some v) (some t)

/-- A block of code in a record: a text, or a table. -/
inductive IsCode : Value → Code → Prop
  | text {v : Value} {s : String} (counts : v.IsText s) : IsCode v (.text s)
  | mapping {v : Value} {t : Parameters} (counts : v.IsTable t) : IsCode v (.mapping t)

/-- A value is a record for an instruction: a mapping that names its kind, with a type, a name and the parameters of
a resource, or with a block of code. -/
inductive IsRecord (v : Value) : Instruction → Prop
  | resource {entries : List (Value × Value)} {typeValue nameValue : Value} {type name : String}
      {params : Option Parameters} (given : v.entries? = some entries)
      (kind : entry? entries "call" = some (.text "resource"))
      (typed : entry? entries "type" = some typeValue) (isType : typeValue.IsText type)
      (named : entry? entries "name" = some nameValue) (isName : nameValue.IsText name)
      (isParams : IsParams ( entry? entries "params") params) : IsRecord v (.resource type name params)
  | block {entries : List (Value × Value)} {codeValue : Value} {code : Code} (given : v.entries? = some entries)
      (kind : entry? entries "call" = some (.text "apply"))
      (coded : entry? entries "code" = some codeValue) (isCode : IsCode codeValue code) : IsRecord v (.block code)

/-! ## Reading records -/

variable {path : List String} {entries : List (Value × Value)} {v : Value}

theorem need_ok_iff {α : Type} {name : String} {read : List String → Value → Checked α} {a : α} :
    need path entries name read = .ok a ↔ ∃ v, entry? entries name = some v ∧ read (path ++ [name]) v = .ok a := by
  rw [need]
  cases entry? entries name with
  | none => simp
  | some v => simp

theorem textAt_ok_iff {s : String} : textAt path v = .ok s ↔ v.IsText s := by
  rw [textAt, atPath, mapError_ok_iff, readText_iff]

theorem readParams_ok_iff {params : Option Parameters} :
    readParams path entries = .ok params ↔ IsParams ( entry? entries "params") params := by
  rw [readParams]
  split
  · next none =>
    rw [none]
    constructor
    · rintro ⟨⟩
      exact .absent
    · rintro ⟨⟩
      rfl
  · next null =>
    rw [null]
    constructor
    · rintro ⟨⟩
      exact .null
    · rintro (_ | _ | ⟨_, _, ⟨⟩, _⟩)
      rfl
  · next v notNull given =>
    rw [given, map_ok_iff]
    simp only [readTable_iff]
    constructor
    · rintro ⟨t, counts, rfl⟩
      exact .table counts
    · rintro (_ | _ | counts)
      · exact absurd rfl notNull
      · exact ⟨_, counts, rfl⟩

theorem isTable_not_isText {s : String} {t : Parameters} (table : v.IsTable t) : ¬ v.IsText s := by
  obtain ⟨entries, rows, given, -⟩ := table
  rintro (_ | _) <;> cases given

theorem readCode_ok_iff {code : Code} : readCode path v = .ok code ↔ IsCode v code := by
  rw [readCode]
  cases read : readText v with
  | ok s =>
    have counts := readText_iff.mp read
    constructor
    · rintro ⟨⟩
      exact .text counts
    · rintro (again | table)
      · rw [readText_iff.mpr again, Except.ok.injEq] at read
        rw [read]
      · exact absurd counts (isTable_not_isText table)
  | error cause =>
    have unread (s : String) : ¬ v.IsText s := fun counts => by
      rw [readText_iff.mpr counts] at read
      cases read
    cases table : readTable (path ++ ["dict[str,any]"]) v with
    | ok t =>
      constructor
      · rintro ⟨⟩
        exact .mapping (readTable_iff.mp table)
      · rintro (counts | again)
        · exact absurd counts (unread _)
        · rw [readTable_iff.mpr again, Except.ok.injEq] at table
          rw [table]
    | error problems =>
      refine ⟨nofun, ?_⟩
      rintro (counts | again)
      · exact absurd counts (unread _)
      · rw [readTable_iff.mpr again] at table
        cases table

theorem readResource_ok_iff {i : Instruction} : readResource path entries = .ok i ↔
    ∃ type name params, i = .resource type name params ∧ (∃ v, entry? entries "type" = some v ∧ v.IsText type) ∧
      (∃ v, entry? entries "name" = some v ∧ v.IsText name) ∧ IsParams ( entry? entries "params") params := by
  rw [readResource, map_ok_iff]
  simp only [both_ok_iff, need_ok_iff, textAt_ok_iff, readParams_ok_iff]
  constructor
  · rintro ⟨⟨type, name, params⟩, ⟨typed, named, given⟩, rfl⟩
    exact ⟨type, name, params, rfl, typed, named, given⟩
  · rintro ⟨type, name, params, rfl, typed, named, given⟩
    exact ⟨(type, name, params), ⟨typed, named, given⟩, rfl⟩

theorem readBlock_ok_iff {i : Instruction} : readBlock path entries = .ok i ↔
    ∃ code, i = .block code ∧ ∃ v, entry? entries "code" = some v ∧ IsCode v code := by
  rw [readBlock, map_ok_iff]
  simp only [need_ok_iff, readCode_ok_iff]
  constructor
  · rintro ⟨code, coded, rfl⟩
    exact ⟨code, rfl, coded⟩
  · rintro ⟨code, rfl, coded⟩
    exact ⟨code, coded, rfl⟩

/-- A value is read as an instruction exactly when it is a record for it, wherever it stands. -/
theorem readRecord_ok_iff {index : Nat} {i : Instruction} : readRecord index v = .ok i ↔ IsRecord v i := by
  rw [readRecord]
  constructor
  · intro read
    split at read
    · next entries given =>
      split at read
      · cases read
      · next kind =>
        obtain ⟨type, name, params, rfl, ⟨_, typed, isType⟩, ⟨_, named, isName⟩, isParams⟩ :=
          readResource_ok_iff.mp read
        exact .resource given kind typed isType named isName isParams
      · next kind =>
        obtain ⟨code, rfl, _, coded, isCode⟩ := readBlock_ok_iff.mp read
        exact .block given kind coded isCode
      · cases read
    · cases read
  · rintro (⟨given, kind, typed, isType, named, isName, isParams⟩ | ⟨given, kind, coded, isCode⟩)
    · simp only [given, kind]
      exact readResource_ok_iff.mpr ⟨_, _, _, rfl, ⟨_, typed, isType⟩, ⟨_, named, isName⟩, isParams⟩
    · simp only [given, kind]
      exact readBlock_ok_iff.mpr ⟨_, rfl, _, coded, isCode⟩

/-- A value is the list of some records, or counts as nothing and so has none. -/
inductive HasRecords (v : Value) : List Value → Prop
  | list {records : List Value} (given : v.items? = some records) : HasRecords v records
  | nothing (empty : v.isTruthy = false) : HasRecords v []

theorem IsRecord.given {i : Instruction} (record : IsRecord v i) : ∃ entries, v.entries? = some entries := by
  cases record with
  | resource given => exact ⟨_, given⟩
  | block given => exact ⟨_, given⟩

theorem not_isRecord_of_isScalar (scalar : v.IsScalar) (i : Instruction) : ¬ IsRecord v i := by
  intro record
  obtain ⟨entries, given⟩ := record.given
  cases v with
  | map share entries => exact scalar
  | _ => cases given

theorem each_readRecord {values : List Value} {is : List Instruction} :
    each (fun (item, i) => readRecord i item) values.zipIdx = .ok is ↔ List.Forall₂ IsRecord values is := by
  rw [each_ok_iff]
  simp only [readRecord_ok_iff]
  rw [← List.forall₂_map_left_iff (f := Prod.fst) (R := IsRecord), List.zipIdx_map_fst]

theorem items?_nil_of_empty {records : List Value} (empty : v.isTruthy = false) (given : v.items? = some records) :
    records = [] := by
  cases v with
  | list share items =>
    have none : items = [] := by simpa [Value.isTruthy] using empty
    subst none
    cases share with
    | none => exact (Option.some.inj given).symm
    | some n => exact (Option.some.inj given).symm
  | _ => cases given

/-- A document is read exactly when it has records and each of them is one for an instruction. -/
theorem ofValue_iff (whole : v.IsWhole) {is : List Instruction} :
    ofValue v = .ok is ↔ ∃ records, HasRecords v records ∧ List.Forall₂ IsRecord records is := by
  rw [ofValue, reported, mapError_ok_iff, Instruction.items?]
  by_cases counts : v.isTruthy = true
  · have some : ∀ records, HasRecords v records ↔ v.items? = some records := by
      intro records
      constructor
      · rintro (given | empty)
        · exact given
        · rw [counts] at empty
          cases empty
      · exact .list
    simp only [counts, if_true, some]
    cases v with
    | tuple items => exact whole.elim
    | set share items =>
      -- A set would do for a list, but there is something in it and none of this can be a record.
      cases items with
      | nil => cases counts
      | cons m items =>
        simp only [Value.members?, each_readRecord, List.forall₂_cons_left_iff]
        constructor
        · rintro ⟨i, _, record, -⟩
          exact absurd record (not_isRecord_of_isScalar (whole m (by simp)) i)
        · rintro ⟨_, ⟨⟩, _⟩
    | list share items =>
      simp only [Value.members?]
      cases (Value.list share items).items? with
      | none => simp
      | some records => simp [each_readRecord]
    | _ => simp [Value.members?, Value.items?]
  · rw [Bool.not_eq_true] at counts
    have none : ∀ records, HasRecords v records ↔ records = [] := by
      intro records
      constructor
      · rintro (given | _)
        · exact items?_nil_of_empty counts given
        · rfl
      · rintro rfl
        exact .nothing counts
    simp only [counts, none]
    simp [each, eq_comm]

/-- A document that is no script: it counts as something and is no list, or it is a list and one of its items is no
record. -/
inductive Malformed (data : Value) : Prop
  | notList (counts : data.isTruthy = true) (other : ∀ share items, data ≠ .list share items)
  | badRecord {records : List Value} {r : Value} (given : data.items? = some records) (member : r ∈ records)
    (bad : ∀ i, ¬ IsRecord r i)

theorem Malformed.not_forall {data : Value} (malformed : Malformed data) {records : List Value}
    (has : HasRecords data records) (is : List Instruction) : ¬ List.Forall₂ IsRecord records is := by
  intro all
  cases malformed with
  | notList counts other =>
    cases has with
    | list given =>
      cases data with
      | list share items => exact other share items rfl
      | _ => cases given
    | nothing empty =>
      rw [counts] at empty
      cases empty
  | badRecord given member bad =>
    cases has with
    | list again =>
      rw [given, Option.some.injEq] at again
      subst again
      obtain ⟨i, record⟩ := exists_forall₂_iff.mp ⟨is, all⟩ _ member
      exact bad i record
    | nothing empty =>
      rw [items?_nil_of_empty empty given] at member
      cases member

end Instruction

namespace Session

open Instruction

/-! ## Runs -/

/-- What a file is loaded as that holds a document. -/
theorem load_document {runtime : Runtime} {h : Host} {path source : String} {data : Value} (document : IsDocument path)
    (read : ((Host.readText path).result h).1 = .ok source) (loaded : Document.load runtime.sets source = .ok data) :
    ((Script.load runtime path).result h).1 = match Instruction.ofValue data with
      | .error report => .error (.script (path ++ ": invalid script: " ++ report.message))
      | .ok is => .ok (.instructions path is) := by
  have text : Script.ofText runtime path source = match Instruction.ofValue data with
      | .error report => .error (.script (path ++ ": invalid script: " ++ report.message))
      | .ok is => .ok (.instructions path is) := by
    rw [IsDocument] at document
    rw [Script.ofText, if_pos document]
    unfold Script.ofDocument
    cases judged : Instruction.ofValue data with
    | error report => simp only [loaded, judged]
    | ok is => simp only [loaded, judged]
  rw [Script.load, Action.result_bind_of_ok (Action.result_attempt (Host.readText path) h), read]
  simp only [Action.result_ofExcept]
  exact text

variable {σ : Type} [Hosted σ]

/-- A script of records that is read and holds a document, under any options, with any backends and after any runs.
If the document is no list of records, whatever its other records are, the run makes no call, leaves one failure and
no resource, and returns 1. If all of its records are valid, the script is loaded as the instructions of these, in
their order. -/
theorem run_allOrNothing (s : Session σ) (path : String) (extra : List String) (t : Run σ)
    (document : IsDocument (Path.normal path))
    (present : ((Host.exists? (Path.normal path)).result (Hosted.host t)).1 = .ok true) {source : String} {data : Value}
    (read : ((Host.readText (Path.normal path)).result (Hosted.host t)).1 = .ok source)
    (loaded : Document.load s.runtime.sets source = .ok data) :
    (Malformed data → ∃ report after, (s.run path extra).result t = (.ok 1, after) ∧
      ((s.against s.backends.recorded).run path extra).result ⟨t.ledger, t.world, []⟩ =
        (.ok 1, ⟨after.ledger, after.world, []⟩) ∧
      after.ledger = ⟨[Path.normal path ++ ": invalid script: " ++ Validation.Report.message report], []⟩) ∧
    ∀ records, HasRecords data records → (∀ r ∈ records, ∃ i, IsRecord r i) → ∃ is,
      ((Script.load s.runtime (Path.normal path)).result (Hosted.host t)).1 =
        .ok (.instructions (Path.normal path) is) ∧
      List.Forall₂ IsRecord records is := by
  have found := load_document document read loaded
  have whole := Document.load_isWhole loaded
  constructor
  · intro malformed
    cases judged : Instruction.ofValue data with
    | ok is =>
      obtain ⟨records, has, all⟩ := (ofValue_iff whole).mp judged
      exact absurd all (malformed.not_forall has is)
    | error report =>
      rw [judged] at found
      obtain ⟨⟨ledger, world, calls⟩, run, trace, left, -⟩ :=
        (s.against s.backends.recorded).run_broken_ledger path extra ⟨t.ledger, t.world, []⟩ present found
      obtain rfl : calls = [] := trace
      have plain := run_follows Traced.projects s (Backends.recorded_follow _) path extra ⟨t.ledger, t.world, []⟩
      rw [run] at plain
      exact ⟨report, ⟨ledger, world⟩, plain, run, left⟩
  · intro records has valid
    obtain ⟨is, all⟩ := Validation.exists_forall₂_iff.mpr valid
    refine ⟨is, ?_, all⟩
    rw [found, (ofValue_iff whole).mpr ⟨records, has, all⟩]

/-- A document of two items, of which only the first is a record. -/
def halfText : String := "[\x7b\"call\": \"resource\", \"type\": \"notify\", \"name\": \"b\"\x7d, 1]\n"

/-- What the document holds. -/
def halfData : Value :=
  .list none [.map none [(.text "call", .text "resource"), (.text "type", .text "notify"), (.text "name", .text "b")],
    .int 1]

/-- A host with a script that is no list of records from its second item on. -/
def halfRecords : Host :=
  { Host.bare with files := ⟨[([], .directory 0o755), (["s.yaml"], .file halfText.toUTF8 0o644)], 0o022⟩ }

/-- Nothing of the script is carried out, although its first item is a record. -/
theorem run_allOrNothing_halfRecords : IsDocument (Path.normal "/s.yaml") ∧
    ((Host.exists? (Path.normal "/s.yaml")).result halfRecords).1 = .ok true ∧
    ((Host.readText (Path.normal "/s.yaml")).result halfRecords).1 = .ok halfText ∧
    Document.load .asPut halfText = .ok halfData ∧ Malformed halfData ∧
    ∃ after, ((⟨raising, .default, plainly⟩ : Session Host).run "/s.yaml" []).result ⟨.empty, halfRecords⟩ =
      (.ok 1, after) ∧
      after.ledger.errors.length = 1 ∧ after.ledger.resources = [] := by
  have read : ((Host.readText (Path.normal "/s.yaml")).result halfRecords).1 = .ok halfText :=
    eq_ok_of_toOption (by decide +kernel)
  have loaded : Document.load .asPut halfText = .ok halfData := eq_ok_of_toOption (by decide +kernel)
  have malformed : Malformed halfData :=
    .badRecord rfl (List.mem_cons_of_mem _ List.mem_cons_self) (not_isRecord_of_isScalar (v := .int 1) trivial)
  obtain ⟨report, after, run, -, left⟩ :=
    (run_allOrNothing (⟨raising, .default, plainly⟩ : Session Host) "/s.yaml" [] ⟨.empty, halfRecords⟩ isDocument_script
      rfl read loaded).1 malformed
  exact ⟨isDocument_script, rfl, read, loaded, malformed, after, run, by rw [left]; rfl, by rw [left]⟩

end Session

end Converge
