import FSharpFlags.Failure
import FSharpFlags.Json.Fault
import FSharpFlags.Text.Line

/-!
# Faults of workspace documents

Every way in which a workspace document can be unusable, and what is said of it. The diagnostic
also names the document and, once it is known, the project.
-/

namespace FSharpFlags

/-- Why a workspace document cannot be used. -/
inductive WorkspaceFault where
  | unavailable (failure : Failure)
  | notJson (cause : Json.Cause) (position : Position)
  | notObject
  | unsupportedFormat
  | unknownTopFields (names : List String)
  | activeNotString
  | projectsNotList
  | projectNotObject
  | projectWithoutName
  | unknownProjectFields (names : List String)
  | projectWithoutFile
  | frameworkNotObject
  | configurationsNotObject
  | configurationNotObject (configuration : String)
  | unknownConfigurationKind (configuration kind : String)
  | fieldNotBoolean (configuration field : String)
  | fieldNotString (configuration field : String)
  | notStrings (what : String)
  | itemsNotLists
  | defaultNotString
  | referenceNotObject
  | unknownReferenceKind (kind : String)
  | referenceWithoutIdentity
  | hintNotString (identity : String)
  | packageWithoutName
  | packageAssemblyIncomplete
  | fileNotObject
  | duplicateProject (name : String)
  | severalProjects
  | unknownProject (name : String)
  deriving DecidableEq, Repr

namespace WorkspaceFault

/-- The wording of a fault. -/
def message : WorkspaceFault → String
  | .unavailable failure => "cannot read workspace: " ++ failure.message
  | .notJson cause position =>
    s!"workspace is not valid JSON: {cause.text}: {position.text}"
  | .notObject => "workspace must be a JSON object"
  | .unsupportedFormat => "unsupported workspace format/version"
  | .unknownTopFields names =>
    "workspace has unknown top-level fields: " ++ ", ".intercalate names
  | .activeNotString => "active_configuration must be a string"
  | .projectsNotList => "workspace projects must be a list"
  | .projectNotObject => "project entries must be objects"
  | .projectWithoutName => "project is missing name"
  | .unknownProjectFields names => "project has unknown fields: " ++ ", ".intercalate names
  | .projectWithoutFile => "project is missing file"
  | .frameworkNotObject => "target_framework must be an object"
  | .configurationsNotObject => "configurations must be an object"
  | .configurationNotObject configuration => s!"configuration '{configuration}' must be an object"
  | .unknownConfigurationKind configuration kind =>
    s!"configuration '{configuration}' has unknown kind '{kind}'"
  | .fieldNotBoolean configuration field =>
    s!"configuration '{configuration}' field '{field}' must be a boolean"
  | .fieldNotString configuration field =>
    s!"configuration '{configuration}' field '{field}' must be a string"
  | .notStrings what => what ++ " must be a list of strings"
  | .itemsNotLists => "references and files must be lists"
  | .defaultNotString => "default_configuration must be a string"
  | .referenceNotObject => "reference entries must be objects"
  | .unknownReferenceKind kind => s!"unknown reference kind '{kind}'"
  | .referenceWithoutIdentity => "reference is missing identity"
  | .hintNotString identity => s!"reference '{identity}' hint_path must be a string"
  | .packageWithoutName => "reference package must be an object with a name"
  | .packageAssemblyIncomplete => "package assemblies need 'name' and 'location'"
  | .fileNotObject => "file entries must be objects with a path"
  | .duplicateProject name => s!"duplicate project '{name}'"
  | .severalProjects => "workspace has several projects; pick one by name"
  | .unknownProject name => s!"unknown project '{name}'"

/-- The fault as a failure of the document at a path. -/
def report (path : String) (project : Option String) (fault : WorkspaceFault) : Failure :=
  .report { kind := .workspaceFormat, message := fault.message, project, path := some path }

end WorkspaceFault

end FSharpFlags
