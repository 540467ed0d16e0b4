import FSharpFlags.CommandLine.Run

/-!
# What a run looks at

A run only ever looks at a small part of the file system, and which part that is follows from the
command line, the variables and the chosen project. Whoever builds a file system for a run needs to
put no more than this part into it: trees that are searched by name, directories that are listed
and files that may be read.
-/

namespace FSharpFlags

/-- A part of a file system. -/
structure Footprint where
  /-- Directories with everything beneath them. -/
  trees : List String := []
  /-- Directories with their entries. -/
  directories : List String := []
  /-- Files with their contents, and the directories that hold them. -/
  files : List String := []
  deriving Repr

namespace Footprint

/-- Two parts together. -/
def append (a b : Footprint) : Footprint :=
  ⟨a.trees ++ b.trees, a.directories ++ b.directories, a.files ++ b.files⟩

/-- The installations that a command line and the variables may mean. -/
def installations (vars : Variables) (a : Arguments) : List String :=
  match a.monoRoot with
  | .text root => [root]
  | .blank => []
  | .absent =>
    let listed := CompilerEnvironment.listedOr vars
    CompilerEnvironment.monoRoots
      ++ (vars.lookup "FSBIND_RUNTIME_DIR").toList.map (fun d ↦ (Path.parse d).parent.text)
      ++ listed "FSBIND_REFERENCE_ROOTS" [] ++ listed "FSBIND_GAC_ROOTS" []
      ++ listed "FSBIND_COMPILER_BIN" []

/-- The part that a command line asks for, before any project is known. -/
def ofArguments (vars : Variables) (a : Arguments) : Footprint where
  trees := installations vars a
  directories :=
    searchPath vars
      ++ (installations vars a).map fun root ↦
        ((Path.parse root).parent.parent.child "bin").text
  files := a.workspace.toList.map fun path ↦ (Path.parse path).text

/-- The part that a project refers to. -/
def ofProject (p : Project) (selection : Selection) : Footprint where
  files :=
    (p.references.filterMap (·.hintPath)).map p.hintedPath
      ++ p.references.flatMap (fun r ↦
        (r.package.map fun package ↦ package.assemblies.map (·.location)).getD [])
      ++ p.referencedAssemblies (p.selector selection)
      ++ (p.neighbours selection).map fun n ↦ n.outputFile (n.selector selection)

/-- The part that the chosen project refers to, as far as its document can be read. -/
def ofRun (fs : FileSystem) (vars : Variables) (a : Arguments) : Footprint :=
  let chosen : Except Failure Footprint := do
    let s ← Session.start .cli fs vars a
    let workspace ← s.loadWorkspace a
    let project ← Session.selectProject workspace a.project
    return ofProject (workspace.toProject s.runtime project)
      ⟨(given a.configuration).or workspace.activeConfiguration⟩
  match chosen with
  | .ok footprint => footprint
  | .error _ => {}

/-- The directories that a path leads through, from the root on, the path itself at the end. -/
def stations (currentDirectory path : String) : List String :=
  let parts := ((Path.parse path).absolute currentDirectory).parts
  (List.range (parts.length + 1)).map fun n ↦ (Path.mk .root (parts.take n)).normal.text

end Footprint

end FSharpFlags
