import Converge.Text.Blank
import Converge.Text.Case
import Converge.Text.WordChar
import Converge.Validation

/-!
# References

A resource is identified by its type and its name. The type is kept in small letters; `display`
writes it with an initial capital before the name in brackets, and `Ref.parse` reads that form.
-/

namespace Converge

/-- A text that is seen not to be empty. -/
theorem ne_empty {s : String} (seen : if s = "" then False else True) : s ≠ "" := by
  rintro rfl
  simp at seen

/-- A type and a name, neither of them empty. -/
structure Ref where
  type : String
  name : String
  type_ne : type ≠ "" := by exact ne_empty trivial
  name_ne : name ≠ "" := by exact ne_empty trivial
deriving DecidableEq

namespace Ref

instance : Inhabited Ref := ⟨{ type := "resource", name := "default" }⟩

/-- The form in which a type is kept. -/
def normalType (type : String) : String := Text.lower (Text.strip type)

/-- A type as it is kept, unless nothing is left of it. -/
def checkType (type : Validation.Checked String) : Validation.Checked { s : String // s ≠ "" } :=
  type.bind fun s =>
    if h : normalType s = "" then .error [⟨["type"], .emptyType⟩] else .ok ⟨normalType s, h⟩

/-- A name, unless it is empty. -/
def checkName (name : Validation.Checked String) : Validation.Checked { s : String // s ≠ "" } :=
  name.bind fun s => if h : s = "" then .error [⟨["name"], .emptyName⟩] else .ok ⟨s, h⟩

/-- The reference of a type and a name that are texts. -/
def check (type name : Validation.Checked String) : Validation.Checked Ref :=
  (Validation.both (checkType type) (checkName name)).map fun (t, n) =>
    { type := t.1, name := n.1, type_ne := t.2, name_ne := n.2 }

/-- The title under which problems of references are reported. -/
def title : String := "ResourceRef"

/-- The reference of two values that should be texts. -/
def ofValues? (type name : Value) : Except Validation.Report Ref :=
  Validation.reported title
    (check (Validation.atPath ["type"] (Validation.readText type))
      (Validation.atPath ["name"] (Validation.readText name)))

/-- The reference of a type and a name. -/
def of? (type name : String) : Except Validation.Report Ref := ofValues? (.text type) (.text name)

/-- The form for messages: the type with an initial capital, and the name in brackets. -/
def display (r : Ref) : String :=
  Text.capitalize r.type ++ "[" ++ r.name ++ "]"

/-- The form for storage: the type, a slash and the name. -/
def key (r : Ref) : String := r.type ++ "/" ++ r.name

/-- A letter that may begin a type. -/
def isTypeStart (c : Char) : Bool := c.isAlpha

/-- A character that may stand in a type after the first. -/
def isTypeChar (c : Char) : Bool := Text.isWordChar c || c == ':'

/-- The last closing bracket, with nothing but blanks after it, is dropped from the end. -/
def dropClosing (s : List Char) : Option (List Char) :=
  match (Text.dropRight Text.isBlank s).reverse with
  | ']' :: name => some name.reverse
  | _ => none

/-- The type and the name that a display form writes. -/
def split (s : List Char) : Option (List Char × List Char) :=
  match s.dropWhile Text.isBlank with
  | c :: rest =>
    if isTypeStart c then
      let type := c :: rest.takeWhile isTypeChar
      match rest.dropWhile isTypeChar with
      | '[' :: inner =>
        match dropClosing inner with
        | some (n :: name) => some (type, n :: name)
        | _ => none
      | _ => none
    else none
  | [] => none

/-- Why a text is not read as a reference. -/
inductive ParseFault where
  | form (text : String)
  | invalid (report : Validation.Report)

/-- The reference that a display form writes; blanks around it do not count. -/
def parse (text : String) : Except ParseFault Ref :=
  match split text.toList with
  | none => .error (.form text)
  | some (type, name) =>
    (of? (String.ofList type) (String.ofList name)).mapError .invalid

/-- The wording of a refusal. -/
def ParseFault.message : ParseFault → String
  | form text => "Invalid resource reference '" ++ text ++ "'"
  | invalid report => report.message

end Ref

end Converge
