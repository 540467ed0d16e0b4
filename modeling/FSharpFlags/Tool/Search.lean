import FSharpFlags.Environment
import FSharpFlags.Framework.Selection

/-!
# Finding tools

A tool is looked for by an ordered list of strategies, of which the first with a result wins: in
the directories of the runtime, in the directories of the shell's search path, in the default
compiler folder. In a directory a tool may have one of a few extensions, tried in order before the
next directory. A directory that cannot be listed is passed over, and not finding a tool is a
result like any other.
-/

namespace FSharpFlags

/-- A tool in a directory. -/
structure ToolLocation where
  /-- The directory as it was given. -/
  directory : String
  /-- The name of the file. -/
  fileName : String
  deriving DecidableEq, Repr

/-- The path of the tool. -/
def ToolLocation.fullPath (t : ToolLocation) : String :=
  ((Path.parse t.directory).child t.fileName).text

/-- The extensions of tools, in the order in which they are tried. -/
def toolExtensions : List String := ["", ".exe", ".bat"]

/-- The names of the files in a directory; none when it cannot be listed. -/
def fileNamesIn (fs : FileSystem) (directory : String) : Except Failure (List String) :=
  match fs.list directory with
  | .ok entries => .ok ((entries.filter (·.2.isFile)).map (·.1))
  | .error failure => if failure.isFileFault then .ok [] else .error failure

/-- The first directory that holds the tool under one of the extensions. -/
def findTool (fs : FileSystem) (name : String) (extensions : List String := toolExtensions) :
    List String → Except Failure (Option ToolLocation)
  | [] => .ok none
  | directory :: rest => do
    if directory.isEmpty then findTool fs name extensions rest
    else
      let present ← fileNamesIn fs directory
      match (extensions.map (name ++ ·)).find? present.contains with
      | some fileName => return some ⟨directory, fileName⟩
      | none => findTool fs name extensions rest

/-- The directories of the shell's search path. -/
def searchPath (vars : Variables) : List String :=
  CompilerEnvironment.splitList ((vars.lookup "PATH").getD "")

/-- A way of looking for a tool. -/
inductive ToolStrategy where
  /-- In the tool directories of the runtime. -/
  | runtimeTool (name : String)
  /-- In the search path of the shell. -/
  | shellTool (name : String)
  /-- A file of the default compiler folder. -/
  | compilerFile (fileName : String)
  /-- A tool of the default compiler folder. -/
  | compilerTool (name : String)
  deriving DecidableEq, Repr

/-- The name of a strategy. -/
def ToolStrategy.label : ToolStrategy → String
  | .runtimeTool name => "runtime:" ++ name
  | .shellTool name => "path:" ++ name
  | .compilerFile fileName => "default-bin:" ++ fileName
  | .compilerTool name => "default-bin:" ++ name

/-- Where tools are looked for. -/
structure ToolContext where
  /-- The file system searched. -/
  fs : FileSystem
  /-- The runtime asked for its tool directories. -/
  runtime : TargetRuntime
  /-- The compiler environment. -/
  env : CompilerEnvironment
  /-- The variables of the process. -/
  vars : Variables

namespace ToolContext

/-- Looks for a tool by one strategy, for a framework of the runtime. -/
def run (c : ToolContext) (framework : Moniker) : ToolStrategy → Except Failure (Option String)
  | .runtimeTool name => do
    return (← findTool c.fs name toolExtensions (c.runtime.toolDirectories framework)).map
      ToolLocation.fullPath
  | .shellTool name => do
    return (← findTool c.fs name toolExtensions (searchPath c.vars)).map
      ToolLocation.fullPath
  | .compilerFile fileName =>
    let path? := (c.env.compilerDirectory? c.fs).map fun directory ↦
      ((Path.parse directory).child fileName).text
    .ok (path?.filter c.fs.reaches)
  | .compilerTool name => do
    return (← findTool c.fs name toolExtensions (c.env.compilerDirectory? c.fs).toList).map
      ToolLocation.fullPath

/-- The result of the first strategy that has one. -/
def firstFound (c : ToolContext) (framework : Moniker) : List ToolStrategy →
    Attempt (Option String)
  | [] => return none
  | strategy :: rest => do
    match ← c.run framework strategy with
    | some path =>
      Attempt.note (.toolFound path strategy.label)
      return some path
    | none => c.firstFound framework rest

/-- The strategies for the interactive shell. -/
def interactiveStrategies : List ToolStrategy :=
  [.runtimeTool "fsharpi", .shellTool "fsharpi", .runtimeTool "fsi", .shellTool "fsi",
    .compilerFile "fsi.exe"]

/-- The strategies for the compiler that need the runtime alone. -/
def runtimeCompilerStrategies : List ToolStrategy := [.runtimeTool "fsharpc", .runtimeTool "fsc"]

/-- The strategies for the compiler. -/
def compilerStrategies : List ToolStrategy :=
  runtimeCompilerStrategies ++ [.shellTool "fsharpc", .shellTool "fsc", .compilerFile "fsc.exe"]

/-- The strategies for a tool of any name. -/
def toolStrategies (name : String) : List ToolStrategy :=
  [.runtimeTool name, .shellTool name, .compilerTool name]

/-- Looks for a tool for the runtime's default framework. -/
def search (c : ToolContext) (strategies : List ToolStrategy) : Attempt (Option String) := do
  let framework ← c.runtime.defaultFramework
  c.firstFound framework.moniker strategies

/-- The default interactive shell. -/
def interactive (c : ToolContext) : Attempt (Option String) := c.search interactiveStrategies

/-- The default compiler. -/
def compiler (c : ToolContext) : Attempt (Option String) := c.search compilerStrategies

/-- The compiler that the runtime brings for a framework. -/
def runtimeCompiler (c : ToolContext) (framework : Moniker) : Attempt (Option String) :=
  c.firstFound framework runtimeCompilerStrategies

/-- A tool of any name. -/
def locate (c : ToolContext) (name : String) : Attempt (Option String) :=
  c.search (toolStrategies name)

end ToolContext

end FSharpFlags
