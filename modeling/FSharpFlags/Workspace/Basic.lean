import FSharpFlags.Path.Normal
import FSharpFlags.Project.Basic
import FSharpFlags.Workspace.Fault

/-!
# Workspaces

A workspace is a list of projects with different names. Its projects are plain data; what a
project sees of the others follows from the list, so nothing in a project has to be kept in step
with it.
-/

namespace FSharpFlags

/-- A project as a workspace describes it. -/
structure WorkspaceProject where
  /-- The name of the project. -/
  name : String
  /-- The path of the project file. -/
  fileName : String
  /-- The framework that the project targets. -/
  framework : Moniker
  /-- What the project compiles to. -/
  compileTarget : String
  /-- The configuration used unless one is selected. -/
  defaultConfiguration : Option String
  /-- The configurations by name, in the order of the document. -/
  configurations : List (String × Configuration)
  /-- The explicit outputs by configuration. -/
  outputs : List (String × String)
  /-- The declared references. -/
  references : List DeclaredReference
  /-- The assemblies that are resolved for the project. -/
  hostAssemblies : List String
  /-- The items of the project. -/
  files : List ProjectFile
  deriving Repr

namespace WorkspaceProject

/-- The directory of the project file. -/
def directory (p : WorkspaceProject) : Path := (Path.parse p.fileName).parent

/-- The extension of an output without an explicit path. -/
def outputExtension (p : WorkspaceProject) : String :=
  if p.compileTarget = "exe" ∨ p.compileTarget = "winexe" then ".exe" else ".dll"

/-- The output under a configuration. -/
def outputFile (p : WorkspaceProject) (configuration : String) : String :=
  match p.outputs.lookup configuration with
  | some path => path
  | none =>
    (((p.directory.child "bin").child configuration).child (p.name ++ p.outputExtension)).text

/-- What other projects see. -/
def outside (p : WorkspaceProject) : ProjectOutside where
  name := p.name
  fileName := p.fileName
  framework := p.framework
  compileTarget := p.compileTarget
  defaultConfiguration := p.defaultConfiguration
  files := p.files
  outputFile := p.outputFile

end WorkspaceProject

/-- A workspace. -/
structure Workspace where
  /-- The path of the document. -/
  path : String
  /-- The configuration selected for all projects. -/
  activeConfiguration : Option String
  /-- The projects in order. -/
  projects : List WorkspaceProject
  deriving Repr

namespace Workspace

/-- The project of a name. -/
def find? (w : Workspace) (name : String) : Option WorkspaceProject :=
  w.projects.find? (·.name = name)

/-- The project of a name, or the only project when no name is given. -/
def select (w : Workspace) (name : Option String) : Except Failure WorkspaceProject :=
  match name with
  | none =>
    match w.projects with
    | [project] => .ok project
    | _ => .error (WorkspaceFault.severalProjects.report w.path none)
  | some name =>
    match w.find? name with
    | some project => .ok project
    | none => .error ((WorkspaceFault.unknownProject name).report w.path (some name))

/-- The projects that a project refers to; those whose files it shares have no output of their
own. -/
def referencedProjects (w : Workspace) (p : WorkspaceProject) : List ProjectOutside :=
  (p.references.filter fun r ↦ r.kind = .project && !r.sharedAssets).filterMap fun r ↦
    (w.find? r.identity).map WorkspaceProject.outside

/-- A project of the workspace with what it sees of the others, for a runtime. -/
def toProject (w : Workspace) (runtime : TargetRuntime) (p : WorkspaceProject) : Project where
  toProjectOutside := p.outside
  runtime
  references := p.references
  configuration := fun name ↦ p.configurations.lookup name
  referencedProjects := fun _ ↦ w.referencedProjects p
  referencedAssemblies := fun _ ↦ p.hostAssemblies
  resolveProject := fun r ↦ (w.find? r.identity).map WorkspaceProject.outside

end Workspace

end FSharpFlags
