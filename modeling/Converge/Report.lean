import Converge.Resource

/-!
# Reports

What happened to each resource of a catalog: its events in order, and whether it was skipped. The
status of the whole is failed if that of a resource is, and otherwise says whether anything changed.
-/

namespace Converge

/-- How a change of a property ended. -/
inductive Outcome where
  | success
  | failure
  | noop
deriving DecidableEq, Repr

/-- One change of a property, or the attempt at it. -/
structure Event where
  property : String
  outcome : Outcome
  message : String
deriving DecidableEq, Repr

/-- What happened to one resource. -/
structure Status where
  ref : String
  events : List Event
  skipped : Bool
deriving DecidableEq, Repr

namespace Status

def failed (s : Status) : Bool := s.events.any (·.outcome = .failure)

def changed (s : Status) : Bool := s.events.any (·.outcome = .success)

def failureMessages (s : Status) : List String :=
  (s.events.filter (·.outcome = .failure)).map (·.message)

end Status

/-- How a whole transaction ended. -/
inductive Overall where
  | failed
  | changed
  | unchanged
deriving DecidableEq, Repr

/-- The statuses of a transaction under the display forms of their resources; `overall` stands once
the report is complete. -/
structure Report where
  node : String
  statuses : Table Status
  overall : Option Overall

namespace Report

/-- The report of a node before anything happened. -/
def start (node : String) : Report := ⟨node, ∅, none⟩

/-- The report with one status more, or with a new one in the place of an earlier one. -/
def add (r : Report) (s : Status) : Report := { r with statuses := r.statuses.insert s.ref s }

def failedStatuses (r : Report) : List Status := r.statuses.values.filter Status.failed

/-- How the statuses taken together ended. -/
def overallOf (statuses : List Status) : Overall :=
  if statuses.any Status.failed then .failed
  else if statuses.any Status.changed then .changed
  else .unchanged

/-- The report completed. -/
def finalize (r : Report) : Report := { r with overall := some (overallOf r.statuses.values) }

end Report

def Outcome.words : List (String × Outcome) :=
  [("success", .success), ("failure", .failure), ("noop", .noop)]

/-- The outcome of a value that should be a word for one. -/
def Outcome.read (v : Value) : Except Validation.Cause Outcome :=
  let unknown := Validation.Cause.choice (words.map Prod.fst)
  match v with
  | .text s => match words.lookup s with
    | some o => .ok o
    | none => .error unknown
  | _ => .error unknown

def Outcome.word : Outcome → String
  | success => "success"
  | failure => "failure"
  | noop => "noop"

/-- The word for the end of a transaction. -/
def Overall.word : Overall → String
  | failed => "failed"
  | changed => "changed"
  | unchanged => "unchanged"

def Event.build (property outcome message : Value) : Except Validation.Report Event :=
  Validation.reported "Event"
    ((Validation.both (Validation.atPath ["property"] (Validation.readText property))
        (Validation.both (Validation.atPath ["status"] (Outcome.read outcome))
          (Validation.atPath ["message"] (Validation.readText message)))).map
      fun (property, outcome, message) => ⟨property, outcome, message⟩)

/-- The status of a reference, events and a value that says whether the resource was skipped. -/
def Status.build (ref : Value) (events : List Event) (skipped : Value) :
    Except Validation.Report Status :=
  Validation.reported "ResourceStatus"
    ((Validation.both (Validation.atPath ["ref"] (Validation.readText ref))
        (Validation.atPath ["skipped"] (Validation.readTruth skipped))).map
      fun (ref, skipped) => ⟨ref, events, skipped⟩)

def Report.build (node : Value) : Except Validation.Report Report :=
  Validation.reported "Report"
    ((Validation.atPath ["node"] (Validation.readText node)).map Report.start)

end Converge
