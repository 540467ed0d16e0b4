import FSharpFlags.Text.Given

/-!
# Configurations

A project has several named configurations. Most carry compiler settings; a plain one (of a folder
of a solution, say) carries none. Which one applies is the active selection, if there is one, else
the project's own default, else the name `Default`.
-/

namespace FSharpFlags

/-- The compiler settings of one configuration. -/
structure CompilerSettings where
  /-- The name of the configuration. -/
  name : String
  /-- The symbols defined for the preprocessor. -/
  defines : List String := []
  /-- Whether debug information is wanted. -/
  debugSymbols : Bool := false
  /-- The kind of debug information. -/
  debugType : String := ""
  /-- Whether to optimise. -/
  optimize : Bool := false
  /-- Whether to emit tail calls. -/
  tailcalls : Bool := true
  /-- Further flags as one text. -/
  otherFlags : String := ""
  deriving DecidableEq, Repr

/-- A configuration of a project. -/
inductive Configuration where
  /-- One without compiler settings. -/
  | plain (name : String)
  /-- One with compiler settings. -/
  | compiled (settings : CompilerSettings)
  deriving DecidableEq, Repr

/-- The compiler settings of a configuration, when it has some. -/
def Configuration.settings? : Configuration → Option CompilerSettings
  | .plain _ => none
  | .compiled settings => some settings

/-- The workspace-wide selection of a configuration. -/
structure Selection where
  /-- The name of the active configuration. -/
  active : Option String := none
  deriving DecidableEq, Repr

/-- The name of the configuration that applies to a project with the given default. -/
def Selection.selector (selection : Selection) (projectDefault : Option String) : String :=
  ((given selection.active).or (given projectDefault)).getD "Default"

end FSharpFlags
