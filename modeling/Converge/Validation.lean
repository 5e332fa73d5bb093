import Converge.Table
import Converge.Text.Surrogate
import Converge.Text.Utf8
import Converge.Value

/-!
# Validation of values

A value is read as what a field wants, with some latitude: bytes of UTF-8 are text, and several
words and numbers are truth values. What cannot be read is reported, each problem with the path to
its place.
-/

namespace Converge.Validation

/-- What is wrong at one place. -/
inductive Cause where
  | text
  | unreadableText
  | mapping
  | list
  | truth
  | truthWord
  /-- The value is none of some words. -/
  | choice (words : List String)
  | missing
  /-- The value is no record of a kind. -/
  | record (kind : String)
  | fields
  /-- No kind of record is named under the key. -/
  | noKind (key : String)
  /-- The kind named under the key is none of those expected. -/
  | unknownKind (kind key : String) (expected : List String)
  | emptyType
  | emptyName
deriving DecidableEq, Repr

/-- A cause and the path to its place. -/
structure Problem where
  path : List String
  cause : Cause
deriving DecidableEq, Repr

/-- The problems of the value of one kind of record. -/
structure Report where
  title : String
  problems : List Problem
deriving DecidableEq, Repr

/-- Words in quotation marks, the last two joined by a conjunction. -/
def alternatives (words : List String) : String :=
  let quoted := words.map fun w => "'" ++ w ++ "'"
  match quoted.reverse with
  | last :: second :: rest => ", ".intercalate (rest.reverse ++ [second]) ++ " or " ++ last
  | other => ", ".intercalate other

def Cause.message : Cause → String
  | text => "Input should be a valid string"
  | unreadableText =>
    "Input should be a valid string, unable to parse raw data as a unicode string"
  | mapping => "Input should be a valid dictionary"
  | list => "Input should be a valid list"
  | truth => "Input should be a valid boolean"
  | truthWord => "Input should be a valid boolean, unable to interpret input"
  | choice words => "Input should be " ++ alternatives words
  | missing => "Field required"
  | record kind => "Input should be a valid dictionary or instance of " ++ kind
  | fields => "Input should be a valid dictionary or object to extract fields from"
  | noKind key => "Unable to extract tag using discriminator '" ++ key ++ "'"
  | unknownKind kind key expected =>
    "Input tag '" ++ kind ++ "' found using '" ++ key ++
      "' does not match any of the expected tags: " ++
      ", ".intercalate (expected.map fun w => "'" ++ w ++ "'")
  | emptyType => "Value error, Resource type must not be empty"
  | emptyName => "Value error, Resource name must not be empty"

def Cause.code : Cause → String
  | text => "string_type"
  | unreadableText => "string_unicode"
  | mapping => "dict_type"
  | list => "list_type"
  | truth => "bool_type"
  | truthWord => "bool_parsing"
  | choice _ => "literal_error"
  | missing => "missing"
  | record _ => "model_type"
  | fields => "model_attributes_type"
  | noKind _ => "union_tag_not_found"
  | unknownKind .. => "union_tag_invalid"
  | emptyType | emptyName => "value_error"

/-- A step of a path; one with a point in it is set off. -/
def stepText (step : String) : String :=
  if step.contains '.' then "`" ++ step ++ "`" else step

/-- A problem: its path on a line of its own, if it has one, and its cause. -/
def Problem.message (p : Problem) : String :=
  let path := if p.path.isEmpty then "" else "\n" ++ ".".intercalate (p.path.map stepText)
  path ++ "\n  " ++ p.cause.message ++ " [type=" ++ p.cause.code ++ "]"

/-- A report: the number of problems, and each of them. -/
def Report.message (r : Report) : String :=
  let count := r.problems.length
  toString count ++ (if count = 1 then " validation error for " else " validation errors for ") ++
    r.title ++ String.join (r.problems.map Problem.message)

/-- What is read, or the problems in the way. -/
abbrev Checked (α : Type) := Except (List Problem) α

/-- A reading of the value at the end of a path. -/
def atPath {α : Type} (path : List String) (r : Except Cause α) : Checked α :=
  r.mapError fun cause => [⟨path, cause⟩]

/-- Two readings together, with the problems of both. -/
def both {α β : Type} (a : Checked α) (b : Checked β) : Checked (α × β) :=
  match a, b with
  | .ok x, .ok y => .ok (x, y)
  | .error p, .ok _ => .error p
  | .ok _, .error q => .error q
  | .error p, .error q => .error (p ++ q)

/-- A reading of each of several values, with the problems of all. -/
def each {α β : Type} (read : α → Checked β) : List α → Checked (List β)
  | [] => .ok []
  | a :: rest => (both (read a) (each read rest)).map fun (b, bs) => b :: bs

/-- The report of a reading under the title of what is read. -/
def reported {α : Type} (title : String) (r : Checked α) : Except Report α :=
  r.mapError fun problems => ⟨title, problems⟩

/-- A text: itself, or bytes of UTF-8. -/
def readText : Value → Except Cause String
  | .text s => .ok s
  | .bytes b => match Text.decode b with
    | .ok s => .ok s
    | .error _ => .error .unreadableText
  | _ => .error .text

/-- The words for a truth value, in any case of their letters. -/
def truthOfWord (s : String) : Except Cause Bool :=
  let word := String.ofList (s.toList.map Char.toLower)
  if ["0", "off", "f", "false", "n", "no"].contains word then .ok false
  else if ["1", "on", "t", "true", "y", "yes"].contains word then .ok true
  else .error .truthWord

/-- The number of which the numbers of 64 bits are the half above it and the half below. -/
def wordBound : Int := 0x8000000000000000

/-- Zero and one are truth values; other numbers above a bound and below `wordBound` are words that
are none. -/
def truthOfNumber (bound i : Int) : Except Cause Bool :=
  if i = 0 then .ok false
  else if i = 1 then .ok true
  else if bound < i ∧ i < wordBound then .error .truthWord
  else .error .truth

/-- A truth value: itself, a word or a number for one. -/
def readTruth : Value → Except Cause Bool
  | .bool b => .ok b
  | .int i => truthOfNumber (-wordBound - 1) i
  | .float d => match d.toInt? with
    | some i => truthOfNumber (-wordBound) i
    | none => .error .truth
  | .text s => if Text.hasSurrogate s then .error .unreadableText else truthOfWord s
  | .bytes b => match Text.decode b with
    | .ok s => truthOfWord s
    | .error _ => .error .truthWord
  | _ => .error .truth

/-- What stands for a value that cannot be shown. -/
def unshown (v : Value) : String := "<unprintable " ++ v.fullTypeName ++ " object>"

def keyStep : Value → String
  | .text s => Text.withoutSurrogates s
  | .bool b => if b then "1" else "0"
  | v => v.literal?.getD (unshown v)

/-- The entries of a mapping whose keys are texts. -/
def readTable (path : List String) (v : Value) : Checked (Table Value) :=
  match v.entries? with
  | some entries =>
    let entry (e : Value × Value) : Checked (String × Value) :=
      (atPath (path ++ [keyStep e.1, "[key]"]) (readText e.1)).map fun key => (key, e.2)
    (each entry entries).map Table.ofList
  | none => .error [⟨path, .mapping⟩]

end Converge.Validation
