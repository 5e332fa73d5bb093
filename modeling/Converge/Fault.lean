import Converge.Catalog.Fault
import Converge.Host.Errno
import Converge.Host.Words

/-!
# Faults

Everything that can stop an action. Each fault has a wording and the name of its class; a fault of
a script names the class of the fault that caused it. Code that is not part of the program can raise
classes of its own, also one that raises another fault when it is asked for its text.
-/

namespace Converge

/-- A kind of value where another is needed. -/
inductive Misuse where
  /-- A path or a word of a command is no text. -/
  | pathFromValue (typeName : String)
  /-- A path is bytes. -/
  | pathFromBytes
  /-- A command line, or a content to be digested, is no text and lacks an operation of texts. -/
  | noOperation (typeName operation : String)
  /-- What is to be written is no text. -/
  | dataFromValue (typeName : String)
  /-- What should be entries under names is no mapping. -/
  | fieldsFromValue (callee typeName : String)
  /-- A name of a field is no text. -/
  | fieldName
  /-- What should bring entries is no mapping. -/
  | entriesFromValue (typeName : String)
  /-- A value has no sign. -/
  | noSign (sign typeName : String)
  /-- A key is of a kind that can change. -/
  | changeableKey (typeName : String)
  /-- An argument of a call is given twice. -/
  | repeatedArgument (callee name : String)
  /-- An argument has a name that a call does not take. -/
  | unknownArgument (callee name : String)
  /-- Arguments that a call needs are not given. -/
  | missingArguments (callee : String) (names : List String)
  /-- A call is given more arguments than it takes. -/
  | extraArguments (callee taken : String) (given : Nat)
deriving DecidableEq, Repr

/-- What stops an action. -/
inductive Fault where
  | catalog (fault : CatalogFault)
  | invalid (report : Validation.Report)
  | document (fault : DocumentFault)
  | reference (fault : Ref.ParseFault)
  | decoding (fault : Text.Utf8Fault)
  /-- A text holds surrogates where its bytes are needed. -/
  | encoding (fault : Text.EncodeFault)
  /-- A number has too many digits to be shown. -/
  | longNumber
  | system (fault : SystemFault)
  | words (fault : Words.Fault)
  | misuse (fault : Misuse)
  /-- A path or a word of a command holds the character U+0000. -/
  | nul
  /-- A command has no word. -/
  | noWords
  /-- A status of a command is infinite. -/
  | infiniteStatus
  | wrongKey (key ref : String)
  | unsupportedBackend (name : String)
  | scriptNotFound (path : String)
  /-- A script stops because a resource failed. -/
  | enforcement (ref : String)
  /-- A script stops because a block failed. -/
  | blockEnforcement
  /-- The script itself is broken. -/
  | script (message : String)
  /-- A script says that it stops. -/
  | raised (message : String)
  /-- A script asks for a fact that is not known; the key is as it is shown in collections. -/
  | unknownFact (key : String)
  /-- A script uses a name that has no meaning. -/
  | unknownName (name : String)
  /-- What code outside the program raises: the name of its class, and its text. -/
  | foreign (kind text : String)
  /-- A fault of a class that has no text: asked for it, it raises another class with a text. -/
  | untold (kind cause text : String)

/-- The name of the class of a misuse. -/
def Misuse.kind : Misuse → String
  | noOperation .. => "AttributeError"
  | _ => "TypeError"

def Misuse.message : Misuse → String
  | pathFromValue typeName => "expected str, bytes or os.PathLike object, not " ++ typeName
  | pathFromBytes =>
    "argument should be a str object or an os.PathLike object returning str, not <class 'bytes'>"
  | noOperation typeName operation =>
    "'" ++ typeName ++ "' object has no attribute '" ++ operation ++ "'"
  | dataFromValue typeName => "data must be str, not " ++ typeName
  | fieldsFromValue callee typeName =>
    callee ++ "() argument after ** must be a mapping, not " ++ typeName
  | fieldName => "keywords must be strings"
  | entriesFromValue typeName => "'" ++ typeName ++ "' object is not a mapping"
  | noSign sign typeName => "bad operand type for unary " ++ sign ++ ": '" ++ typeName ++ "'"
  | changeableKey typeName => "unhashable type: '" ++ typeName ++ "'"
  | repeatedArgument callee name =>
    callee ++ "() got multiple values for argument '" ++ name ++ "'"
  | unknownArgument callee name =>
    callee ++ "() got an unexpected keyword argument '" ++ name ++ "'"
  | missingArguments callee names =>
    let count := names.length
    callee ++ "() missing " ++ toString count ++ " required positional argument" ++
      (if count = 1 then "" else "s") ++ ": " ++
      " and ".intercalate (names.map fun n => "'" ++ n ++ "'")
  | extraArguments callee taken given =>
    callee ++ "() takes " ++ taken ++ " but " ++ toString given ++ " were given"

namespace Fault

/-- The name of the class of a fault. -/
def kind : Fault → String
  | catalog _ => "CatalogError"
  | invalid _ => "ValidationError"
  | document fault => fault.kind
  | reference (.form _) => "ValueError"
  | reference (.invalid _) => "ValidationError"
  | decoding _ => "UnicodeDecodeError"
  | encoding _ => "UnicodeEncodeError"
  | system fault => fault.errno.kind
  | misuse fault => fault.kind
  | words _ | nul | longNumber | wrongKey .. | unsupportedBackend _ => "ValueError"
  | noWords => "IndexError"
  | infiniteStatus => "OverflowError"
  | scriptNotFound _ => "ScriptNotFound"
  | enforcement _ | blockEnforcement => "ResourceEnforcementFailed"
  | script _ => "ScriptEvaluationFault"
  | raised _ => "RuntimeError"
  | unknownFact _ => "KeyError"
  | unknownName _ => "NameError"
  | foreign kind _ => kind
  | untold kind _ _ => kind

/-- The wording of a fault, or what stands for it where there is none. -/
def message : Fault → String
  | catalog fault => fault.message
  | invalid report => report.message
  | document fault => fault.message
  | reference fault => fault.message
  | decoding fault => fault.message
  | encoding fault => fault.message
  | longNumber => Text.unshownWhole
  | system fault => fault.message
  | words fault => fault.message
  | misuse fault => fault.message
  | nul => "embedded null byte"
  | noWords => "list index out of range"
  | infiniteStatus => "cannot convert float infinity to integer"
  | wrongKey key ref => "Key '" ++ key ++ "' does not match " ++ ref
  | unsupportedBackend name => "Unsupported enforcement backend: " ++ name
  | scriptNotFound path => "Could not find script file " ++ path
  | enforcement ref => "Failed enforcing " ++ ref
  | blockEnforcement => "Failed applying code block"
  | script message => message
  | raised message => message
  | unknownFact key => key
  | unknownName name => "name '" ++ name ++ "' is not defined"
  | foreign _ text => text
  | untold .. => "<exception str() failed>"

/-- The text of a fault, or what is raised when it is asked for. -/
def text : Fault → Except Fault String
  | untold _ cause text => .error (.foreign cause text)
  | fault => .ok fault.message

/-- The fault says that a value is not usable, though of the right kind. -/
def isValueFault (f : Fault) : Bool :=
  ["ValueError", "ValidationError", "UnicodeDecodeError", "UnicodeEncodeError"].contains f.kind

def isArgumentFault (f : Fault) : Bool := f.isValueFault || f.kind == "TypeError"

/-- A fault of a class whose text would show a number with too many digits. -/
def unshown (kind : String) : Fault := untold kind longNumber.kind longNumber.message

end Fault

def Value.shown (v : Value) : Except Fault String :=
  match v.display? with
  | some s => .ok s
  | none => .error .longNumber

end Converge
