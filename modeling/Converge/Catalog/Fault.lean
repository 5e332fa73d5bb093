import Converge.Document.Fault
import Converge.Ref

/-!
# What is wrong with a catalog

Each cause for which a resource or a block of code makes no catalog, with its wording. Resources
appear by their display form and values as they are shown.
-/

namespace Converge

/-- Why a catalog is refused. -/
inductive CatalogFault where
  | unknownType (name : String)
  | duplicate (ref : String)
  | notFinalized (node : String)
  | cycle (refs : List String)
  | badTarget (ref : String) (fault : Ref.ParseFault)
  /-- A number that is named as a resource has too many digits to be shown. -/
  | longTarget (ref : String)
  | missingTarget (target ref : String)
  | invalidParameter (ref parameter : String)
  | invalidNoop (ref shown : String)
  | relativeFile (ref name : String)
  | invalidEnsure (ref shown : String) (valid : List String)
  | contentNotText (ref : String)
  | invalidMode (ref shown : String)
  | emptyCommand (ref : String)
  | relativeCreates (ref shown : String)
  | invalidReturns (ref shown : String)
  | codeNotText (typeName : String)
  | unreadableCode (fault : DocumentFault)
  | codeNotMapping
  | entriesNotMapping (typeName : String)
  | invalidResource (typeName name : String) (report : Validation.Report)

/-- The wording of a cause. -/
def CatalogFault.message : CatalogFault → String
  | unknownType name => "Unknown resource type: '" ++ name ++ "'"
  | duplicate ref => "Duplicate declaration: " ++ ref ++ " is already declared"
  | notFinalized node => "Catalog for " ++ node ++ " has not been finalized"
  | cycle refs =>
    "Found dependency cycle in the following relationships: " ++ ", ".intercalate refs
  | badTarget ref fault => ref ++ ": " ++ fault.message
  | longTarget ref => ref ++ ": " ++ Text.unshownWhole
  | missingTarget target ref =>
    "Could not find resource '" ++ target ++ "' for relationship on '" ++ ref ++ "'"
  | invalidParameter ref parameter => ref ++ ": Invalid parameter '" ++ parameter ++ "'"
  | invalidNoop ref shown => ref ++ ": noop must be true or false, not '" ++ shown ++ "'"
  | relativeFile ref name =>
    ref ++ ": File paths must be fully qualified, not '" ++ name ++ "'"
  | invalidEnsure ref shown valid =>
    ref ++ ": Invalid value '" ++ shown ++ "' for ensure. Valid values are " ++
      ", ".intercalate valid
  | contentNotText ref => ref ++ ": content must be a string"
  | invalidMode ref shown => ref ++ ": Invalid mode '" ++ shown ++ "'"
  | emptyCommand ref => ref ++ ": command must be a non-empty string"
  | relativeCreates ref shown => ref ++ ": creates must be fully qualified, not '" ++ shown ++ "'"
  | invalidReturns ref shown => ref ++ ": Invalid returns '" ++ shown ++ "'"
  | codeNotText typeName => "Code block must be text, not " ++ typeName
  | unreadableCode fault => "Could not parse code block: " ++ fault.message
  | codeNotMapping => "Code block must map resource types to resources"
  | entriesNotMapping typeName =>
    "Resources of type '" ++ typeName ++ "' must map names to parameters"
  | invalidResource typeName name report =>
    "Invalid resource " ++ typeName ++ " '" ++ name ++ "': " ++ report.message

end Converge
