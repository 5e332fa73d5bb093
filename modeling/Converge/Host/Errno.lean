import Converge.Text.Quoted

/-!
# Errors of the system

The reasons for which the system refuses an operation, with their numbers and wordings.
-/

namespace Converge

/-- Why the system refuses an operation. -/
inductive Errno where
  | noEntry
  | tooLarge
  | noFormat
  | noAccess
  | busy
  | fileExists
  | notDirectory
  | isDirectory
  | invalid
  | nameTooLong
  | notEmpty
  | loop
deriving DecidableEq, Repr

namespace Errno

def number : Errno → Nat
  | noEntry => 2
  | tooLarge => 7
  | noFormat => 8
  | noAccess => 13
  | busy => 16
  | fileExists => 17
  | notDirectory => 20
  | isDirectory => 21
  | invalid => 22
  | nameTooLong => 36
  | notEmpty => 39
  | loop => 40

/-- The wording of a reason. -/
def text : Errno → String
  | noEntry => "No such file or directory"
  | tooLarge => "Argument list too long"
  | noFormat => "Exec format error"
  | noAccess => "Permission denied"
  | busy => "Device or resource busy"
  | fileExists => "File exists"
  | notDirectory => "Not a directory"
  | isDirectory => "Is a directory"
  | invalid => "Invalid argument"
  | nameTooLong => "File name too long"
  | notEmpty => "Directory not empty"
  | loop => "Too many levels of symbolic links"

/-- The name of the class of errors that a reason belongs to. -/
def kind : Errno → String
  | noEntry => "FileNotFoundError"
  | noAccess => "PermissionError"
  | fileExists => "FileExistsError"
  | notDirectory => "NotADirectoryError"
  | isDirectory => "IsADirectoryError"
  | _ => "OSError"

end Errno

/-- An operation on a path that the system refuses. -/
structure SystemFault where
  errno : Errno
  path : String
deriving DecidableEq, Repr

/-- The wording of a refusal. -/
def SystemFault.message (f : SystemFault) : String :=
  "[Errno " ++ toString f.errno.number ++ "] " ++ f.errno.text ++ ": " ++ Text.quote f.path

end Converge
