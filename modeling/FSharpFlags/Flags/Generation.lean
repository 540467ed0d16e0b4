import FSharpFlags.Core.Reconciliation
import FSharpFlags.Flags.Extra
import FSharpFlags.Flags.Option
import FSharpFlags.Project.Facades
import FSharpFlags.Project.Items

/-!
# Generating the flags of a project

The order of the flags is fixed: the frame that every project has, the output, the settings of
the configuration, its extra flags, the references, the resources and last the source files. Only
the references depend on the environment.

A portable project refers to its declared references and its profile and to nothing else. Any
other project refers to what it declares, what its host resolves and the facades that apply, with
bare mentions of the language core dropped; what is then missing of the core assemblies is looked
up and comes first.
-/

namespace FSharpFlags

/-- What flag generation takes besides the project. -/
structure GenerationOptions where
  /-- Where default references lie. -/
  env : CompilerEnvironment
  /-- Answers questions about assembly files. -/
  inspector : Inspector
  /-- The language version whose core assembly is wanted. -/
  language : Option LanguageVersion := none
  /-- The target framework, when it is not the project's own. -/
  target : Option TargetFramework := none
  /-- Whether paths are wrapped in quotation marks. -/
  wrap : Bool := false

namespace GenerationOptions

/-- The target framework for a project. -/
def targetOf (o : GenerationOptions) (p : Project) : TargetFramework :=
  o.target.getD (TargetFramework.ofMoniker p.framework)

/-- The options of a language service: always the newest language core and unwrapped paths. -/
def forLanguageService (o : GenerationOptions) (p : Project) : GenerationOptions where
  env := o.env
  inspector := o.inspector
  target := some (o.targetOf p)

end GenerationOptions

/-- Whether a path is a bare mention of the language core, which names no file. -/
def isBareLanguageCore (path : String) : Bool :=
  if FileName.isAbsolute path.toList || (Path.parse path).isAbsolute then false
  else
    ["fsharp.core", "fsharp.core.dll"].contains
      (foldCase (String.ofList (Text.strip path.toList)))

/-- The debug option of the settings. -/
def CompilerSettings.debugLevel (settings : CompilerSettings) : DebugLevel :=
  if settings.debugSymbols = false then .minus
  else if settings.debugType = "full" then .full
  else if settings.debugType = "pdbonly" then .pdbOnly
  else .plus

/-- The target kind of a project's compile target. -/
def TargetKind.ofCompileTarget (target : String) : TargetKind :=
  if toLowerCase target = "library" then .library
  else if toLowerCase target = "module" then .module
  else .exe

namespace Project

/-- The paths that a project refers to before the core assemblies are seen to. -/
def candidatePaths (fs : FileSystem) (p : Project) (selection : Selection)
    (inspector : Inspector) : Attempt (List String) := do
  let declared ← p.collect fs selection
  let resolved ← p.hostAssemblies selection
  let facades ← p.applicableFacades fs selection inspector
  return declared ++ resolved ++ facades

/-- The set of references of a project that is not portable, without the looked-up ones. -/
def candidateSet (fs : FileSystem) (p : Project) (selection : Selection) (inspector : Inspector) :
    Attempt ReferenceSet := do
  let paths ← p.candidatePaths fs selection inspector
  return ReferenceSet.ofList (paths.filter fun path ↦ !isBareLanguageCore path)

/-- The set of references of a project that is not portable, with its reconciliation. -/
def reconciled (fs : FileSystem) (p : Project) (selection : Selection) (o : GenerationOptions) :
    Attempt (ReferenceSet × Reconciliation) := do
  let set ← p.candidateSet fs selection o.inspector
  let core ← set.reconcile fs o.env o.language (o.targetOf p) o.inspector
  return (set, core)

/-- The paths of the reference options. -/
def referencePaths (fs : FileSystem) (p : Project) (selection : Selection)
    (o : GenerationOptions) : Attempt (List String) := do
  if p.isPortable then return (← p.portableReferences fs selection).paths
  else
    let (set, core) ← p.reconciled fs selection o
    return core.added ++ set.paths

/-- The reference options. -/
def referenceOptions (fs : FileSystem) (p : Project) (selection : Selection)
    (o : GenerationOptions) : Attempt (List CompilerOption) := do
  return (← p.referencePaths fs selection o).map .reference

/-- The options before the references: the frame, the output and the settings. -/
def leadingOptions (p : Project) (settings : CompilerSettings) (selection : Selection) :
    List CompilerOption :=
  [.rawFlag "--simpleresolution", .rawFlag "--noframework",
      .outputFile (p.outputFile (p.selector selection))]
    ++ (if p.isPortable then [.rawFlag "--targetprofile:netcore"] else [])
    ++ [.rawFlag "--platform:anycpu", .rawFlag "--fullpaths", .rawFlag "--flaterrors"]
    ++ settings.defines.map .define
    ++ [.debug settings.debugLevel, .optimize settings.optimize, .tailcalls settings.tailcalls,
      .target (TargetKind.ofCompileTarget p.compileTarget)]

/-- The resource options. -/
def resourceOptions (p : Project) : List CompilerOption :=
  p.resources.map fun r ↦ .resource r.1 r.2

/-- The options of a project under the given settings. -/
def compilerOptions (fs : FileSystem) (p : Project) (settings : CompilerSettings)
    (selection : Selection) (o : GenerationOptions) : Attempt (List CompilerOption) := do
  let references ← p.referenceOptions fs selection o
  let extra ← splitExtraFlags settings.otherFlags
  return p.leadingOptions settings selection ++ extra.map .rawFlag ++ references
    ++ p.resourceOptions ++ p.compiledFiles.map .sourceFile

/-- The reference flags of a project. -/
def referenceFlags (fs : FileSystem) (p : Project) (selection : Selection)
    (o : GenerationOptions) : Attempt (List String) := do
  return (← p.referenceOptions fs selection o).map (·.render o.wrap)

/-- The flags of a project under the given settings. -/
def compilerFlags (fs : FileSystem) (p : Project) (settings : CompilerSettings)
    (selection : Selection) (o : GenerationOptions) : Attempt (List String) := do
  return (← p.compilerOptions fs settings selection o).map (·.render o.wrap)

end Project

/-- A project as a language service takes it. -/
structure ServiceOptions where
  /-- The full path of the project file. -/
  projectFileName : String
  /-- The files of the project, which are among its flags. -/
  projectFileNames : List String := []
  /-- The flags of the project. -/
  otherOptions : List String
  /-- The projects referred to, which are among the flags. -/
  referencedProjects : List String := []
  /-- Whether the service may meet unresolved names. -/
  isIncomplete : Bool := false
  /-- Whether references are resolved as in a script. -/
  usesScriptRules : Bool := false
  /-- When the project was loaded: the end of time, so that it is never loaded again. -/
  loadTime : String := "9999-12-31T23:59:59.999999"
  /-- The references that the service still has to resolve. -/
  unresolvedReferences : Option (List String) := none
  deriving DecidableEq, Repr

namespace Project

/-- The project with its flags, for a language service. -/
def serviceOptions (fs : FileSystem) (p : Project) (settings : CompilerSettings)
    (selection : Selection) (o : GenerationOptions) : Attempt ServiceOptions := do
  let flags ← p.compilerFlags fs settings selection o
  return {
    projectFileName := ((Path.parse p.fileName).absolute fs.currentDirectory).text
    otherOptions := flags }

/-- What a language service gets for a project. -/
def argumentsForService (fs : FileSystem) (p : Project) (selection : Selection)
    (o : GenerationOptions) : Attempt ServiceOptions := do
  let settings ← p.requireSettings selection
  p.serviceOptions fs settings selection (o.forLanguageService p)

/-- The reference flags that a language service gets for a project. -/
def referencesForService (fs : FileSystem) (p : Project) (selection : Selection)
    (o : GenerationOptions) : Attempt (List String) := do
  let _ ← p.requireSettings selection
  p.referenceFlags fs selection (o.forLanguageService p)

end Project

end FSharpFlags
