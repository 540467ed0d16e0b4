import FSharpFlags.Attempt
import FSharpFlags.FileSystem.Basic
import FSharpFlags.Framework.Generation
import FSharpFlags.Text.Given

/-!
# The compiler environment

Where default references and compilers live: the directory of the running framework, the roots of
the core assemblies' reference versions, the global assembly caches and the folders of a compiler
installation. The environment is a value that is built once, from a Mono installation or from
environment variables over the first Mono installation that exists.
-/

namespace FSharpFlags

/-- The locations used for looking up default references and compilers. -/
structure CompilerEnvironment where
  /-- The directory of the running framework. -/
  runtimeDirectory : Option String := none
  /-- The roots that hold the core assembly by framework generation and version. -/
  referenceRoots : List String := []
  /-- The global assembly caches. -/
  caches : List String := []
  /-- Where a default compiler may be installed. -/
  compilerDirectories : List String := []
  deriving DecidableEq, Repr

/-- Named texts such as the variables of a process. -/
abbrev Variables := List (String × String)

namespace CompilerEnvironment

/-- The usual roots of a Mono installation. -/
def monoRoots : List String :=
  ["/usr/lib/mono", "/usr/local/lib/mono",
    "/Library/Frameworks/Mono.framework/Versions/Current/lib/mono"]

/-- The environment of a Mono installation. -/
def ofMonoRoot (root : Path) (frameworkDirectory : String := "4.5") : CompilerEnvironment where
  runtimeDirectory := some (root.child frameworkDirectory).text
  referenceRoots :=
    [((root.child "fsharp").child "api").text,
      (((root.child "Reference Assemblies").child "Microsoft").child "FSharp").text]
  caches := [(root.child "gac").text]
  compilerDirectories := [(root.child "fsharp").text, (root.child frameworkDirectory).text]

/-- The entries of a list that is written with colons; empty entries do not count. -/
def splitList (text : String) : List String :=
  ((text.toList.splitOn ':').filter fun entry ↦ !entry.isEmpty).map String.ofList

/-- The listed value of a variable, or the given one when it lists nothing. -/
def listedOr (vars : Variables) (name : String) (fallback : List String) : List String :=
  match splitList ((vars.lookup name).getD "") with
  | [] => fallback
  | entries => entries

/-- The value of a variable, or the given one when it is empty or not set. -/
def valueOr (vars : Variables) (name : String) (fallback : Option String) : Option String :=
  (given (vars.lookup name)).or fallback

/-- The first usual Mono root that exists, else the first one. -/
def firstMonoRoot (fs : FileSystem) : Path :=
  Path.parse ((monoRoots.find? fs.reaches).getD "/usr/lib/mono")

/-- The environment that the variables describe. -/
def ofVariables (fs : FileSystem) (vars : Variables) : CompilerEnvironment :=
  let base := ofMonoRoot (firstMonoRoot fs)
  { runtimeDirectory := valueOr vars "FSBIND_RUNTIME_DIR" base.runtimeDirectory
    referenceRoots := listedOr vars "FSBIND_REFERENCE_ROOTS" base.referenceRoots
    caches := listedOr vars "FSBIND_GAC_ROOTS" base.caches
    compilerDirectories := listedOr vars "FSBIND_COMPILER_BIN" base.compilerDirectories }

/-- The directory of the running framework, when one is given. -/
def runningDirectories (env : CompilerEnvironment) : List String :=
  (given env.runtimeDirectory).toList

/-- The directories of the core assembly for a language version and a target framework. -/
def coreDirectories (env : CompilerEnvironment) (language : Option LanguageVersion)
    (target : TargetFramework) : List String :=
  env.referenceRoots.map fun root ↦
    ((((Path.parse root).child Moniker.desktop).child target.generation.text).child
      (coreVersionFor language target)).text

/-- The directories searched for default references, in order. -/
def defaultDirectories (env : CompilerEnvironment) (language : Option LanguageVersion)
    (target : TargetFramework) : List String :=
  env.runningDirectories ++ env.coreDirectories language target

/-- The first folder of a compiler installation that exists. -/
def compilerDirectory? (fs : FileSystem) (env : CompilerEnvironment) : Option String :=
  env.compilerDirectories.find? fun directory ↦ fs.reaches (Path.parse directory).text

end CompilerEnvironment

/-- Where an assembly would lie in a directory. -/
def assemblyIn (directory name : String) : String :=
  ((Path.parse directory).child (name ++ ".dll")).text

/-- The first of the directories' assemblies of the given name that exists. -/
def findAssembly (fs : FileSystem) (directories : List String) (name : String) : Option String :=
  (directories.map (assemblyIn · name)).find? fs.reaches

/-- Looks an assembly up in the default directories, in the extra one first. -/
def findDefaultReference (fs : FileSystem) (env : CompilerEnvironment)
    (language : Option LanguageVersion) (target : TargetFramework) (name : String)
    (extra : Option String := none) : Attempt (Option String) :=
  let directories := extra.toList ++ env.defaultDirectories language target
  match findAssembly fs directories name with
  | some path => pure (some path)
  | none => do
    Attempt.note (.defaultMissing name directories)
    return none

end FSharpFlags
