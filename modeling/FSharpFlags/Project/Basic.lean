import FSharpFlags.Attempt
import FSharpFlags.Project.Configuration
import FSharpFlags.Runtime.Basic

/-!
# Projects

A project is what its host says about it: its name and files, the references it declares, its
configurations, and what the host resolves for it. Of a project that it refers to, only the
outside matters (its name, framework, files and output), so the outside is a type of its own and
projects that refer to each other in a circle need no circular values.
-/

namespace FSharpFlags

/-- What a reference refers to. -/
inductive ReferenceKind where
  | assembly
  | package
  | project
  | custom
  deriving DecidableEq, Repr

/-- The name of the kind in documents. -/
def ReferenceKind.text : ReferenceKind → String
  | .assembly => "assembly"
  | .package => "package"
  | .project => "project"
  | .custom => "custom"

/-- Every kind of reference. -/
def ReferenceKind.all : List ReferenceKind := [.assembly, .package, .project, .custom]

/-- The kind of a name. -/
def ReferenceKind.ofText? (text : String) : Option ReferenceKind :=
  ReferenceKind.all.find? (·.text = text)

/-- An assembly of a package. -/
structure PackageAssembly where
  /-- The simple name. -/
  name : String
  /-- The name with version, culture and token. -/
  fullName : String
  /-- The path of the file. -/
  location : String
  deriving DecidableEq, Repr

/-- A named group of assemblies. -/
structure Package where
  /-- The name of the group. -/
  name : String
  /-- Its assemblies in order. -/
  assemblies : List PackageAssembly := []
  deriving DecidableEq, Repr

/-- A reference as a project declares it. -/
structure DeclaredReference where
  /-- What is referred to. -/
  kind : ReferenceKind
  /-- The name of the assembly or project. -/
  identity : String
  /-- Where the file may be. -/
  hintPath : Option String := none
  /-- The package that holds the assembly. -/
  package : Option Package := none
  /-- Whether the files of the project referred to compile into this one. -/
  sharedAssets : Bool := false
  deriving DecidableEq, Repr

/-- An item of a project. -/
structure ProjectFile where
  /-- The path of the item. -/
  path : String
  /-- What the build does with it. -/
  buildAction : String
  /-- Where the item appears in the project. -/
  virtualPath : String
  /-- Whether the item is a directory. -/
  isDirectory : Bool := false
  deriving DecidableEq, Repr

/-- What projects see of each other. -/
structure ProjectOutside where
  /-- The name of the project. -/
  name : String
  /-- The path of the project file. -/
  fileName : String
  /-- The framework that the project targets. -/
  framework : Moniker
  /-- What the project compiles to. -/
  compileTarget : String
  /-- The configuration used unless one is selected. -/
  defaultConfiguration : Option String
  /-- The items of the project. -/
  files : List ProjectFile
  /-- The path of the output under a configuration. -/
  outputFile : String → String

/-- A project with all that its host says about it. -/
structure Project extends ProjectOutside where
  /-- The runtime that the project targets. -/
  runtime : TargetRuntime
  /-- The declared references in order. -/
  references : List DeclaredReference
  /-- The configuration of a name. -/
  configuration : String → Option Configuration
  /-- The projects that this one refers to, under a configuration. -/
  referencedProjects : String → List ProjectOutside
  /-- The assemblies that the host resolves for the project, under a configuration. -/
  referencedAssemblies : String → List String
  /-- The project that a reference means. -/
  resolveProject : DeclaredReference → Option ProjectOutside

/-- Whether a project targets a portable profile. -/
def ProjectOutside.isPortable (p : ProjectOutside) : Bool := p.framework.isPortable

/-- The name of the configuration that applies to a project. -/
def ProjectOutside.selector (p : ProjectOutside) (selection : Selection) : String :=
  selection.selector p.defaultConfiguration

namespace Project

/-- The projects referred to under the selected configuration. -/
def neighbours (p : Project) (selection : Selection) : List ProjectOutside :=
  p.referencedProjects (p.selector selection)

/-- Whether the project or one that it refers to is portable. -/
def isOrReferencesPortable (p : Project) (selection : Selection) : Bool :=
  p.isPortable || (p.neighbours selection).any (·.isPortable)

/-- The assemblies that the host resolves; asking for them is noted. -/
def hostAssemblies (p : Project) (selection : Selection) : Attempt (List String) := do
  Attempt.note (.askedAssemblies p.name)
  return p.referencedAssemblies (p.selector selection)

/-- The compiler settings under the selected configuration. -/
def requireSettings (p : Project) (selection : Selection) : Except Failure CompilerSettings :=
  match (p.configuration (p.selector selection)).bind Configuration.settings? with
  | some settings => .ok settings
  | none =>
    .error <| .report {
      kind := .unsupportedConfiguration
      message := s!"configuration '{p.selector selection}' is not a .NET configuration"
      project := some p.name
      path := some p.fileName }

end Project

end FSharpFlags
