import FSharpFlags.Text.Given

/-!
# Diagnostics

A condition that the caller must act on is reported as a diagnostic: a reason code for programs,
a message for people, and the project and path concerned. Failures that concern a single
reference are not diagnostics; they are noted and the reference is skipped.
-/

namespace FSharpFlags

/-- The conditions that have a diagnostic of their own. -/
inductive DiagnosticKind where
  /-- A diagnostic that its reason code alone describes. -/
  | general
  /-- The target runtime offers no framework. -/
  | noFrameworks
  /-- The selected configuration has no compiler settings. -/
  | unsupportedConfiguration
  /-- The workspace document cannot be used. -/
  | workspaceFormat
  deriving DecidableEq, Repr

namespace DiagnosticKind

/-- The reason code of the kind. -/
def reasonCode : DiagnosticKind → String
  | .general => ""
  | .noFrameworks => "NO_FRAMEWORKS_INSTALLED"
  | .unsupportedConfiguration => "UNSUPPORTED_CONFIGURATION"
  | .workspaceFormat => "WORKSPACE_FORMAT"

/-- The message of the kind where nothing more precise is known. -/
def defaultMessage : DiagnosticKind → String
  | .general => ""
  | .noFrameworks => "the target runtime reports no frameworks"
  | .unsupportedConfiguration => "project configuration is not a .NET configuration"
  | .workspaceFormat => "malformed workspace document"

end DiagnosticKind

/-- A reported condition. -/
structure Diagnostic where
  /-- Which condition it is. -/
  kind : DiagnosticKind
  /-- The code that programs test. -/
  reasonCode : String := kind.reasonCode
  /-- The text for people. -/
  message : String := kind.defaultMessage
  /-- The project concerned. -/
  project : Option String := none
  /-- Whether a project is concerned that has no name; programs see an empty list of names. -/
  isNameless : Bool := false
  /-- The file concerned. -/
  path : Option String := none
  deriving DecidableEq, Repr

/-- A labelled part of a diagnostic, left out when there is nothing to show. -/
private def labelled (label : String) (text : Option String) : List String :=
  (given text).toList.map (label ++ ·)

/-- The diagnostic on one line. -/
def Diagnostic.line (d : Diagnostic) : String :=
  " ".intercalate
    (s!"[{d.reasonCode}] {d.message}" :: labelled "project=" d.project ++ labelled "path=" d.path)

end FSharpFlags
