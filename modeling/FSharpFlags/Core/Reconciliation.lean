import FSharpFlags.Assembly.Location
import FSharpFlags.Assembly.Portability
import FSharpFlags.Core.Assembly
import FSharpFlags.Environment
import FSharpFlags.Reference.Set

/-!
# Reconciling the core assemblies

Collected references may or may not bring the two core assemblies along. Which of them is there
decides which lookups are made:

| language core | base runtime | lookups                                                     |
|---------------|--------------|-------------------------------------------------------------|
| present       | present      | none                                                        |
| missing       | present      | language core in the base runtime's and default directories |
| present       | missing      | base runtime as the language core's dependency              |
| missing       | missing      | each in the default directories                             |

A lookup is a list of strategies of which the first with a result wins. One without a result is
noted as a warning and adds nothing; the lookups do not depend on each other.
-/

namespace FSharpFlags

/-- Which core assemblies are present. -/
inductive CoreCase where
  | bothPresent
  | missingLanguageCore
  | missingBaseRuntime
  | missingBoth
  deriving DecidableEq, Repr

namespace CoreCase

/-- The name of the case. -/
def text : CoreCase → String
  | .bothPresent => "both-present"
  | .missingLanguageCore => "missing-language-core"
  | .missingBaseRuntime => "missing-base-runtime"
  | .missingBoth => "missing-both"

/-- The case for the paths found of the language core and the base runtime. -/
def classify (languageCore baseRuntime : Option String) : CoreCase :=
  match languageCore, baseRuntime with
  | some _, some _ => .bothPresent
  | none, some _ => .missingLanguageCore
  | some _, none => .missingBaseRuntime
  | none, none => .missingBoth

end CoreCase

/-- A way of looking a core assembly up. -/
inductive CoreStrategy where
  /-- In the default directories. -/
  | defaultDirectories
  /-- In the directory of the base runtime, then in the default directories. -/
  | besideBaseRuntime
  /-- As a dependency of the language core. -/
  | languageCoreDependency
  deriving DecidableEq, Repr

/-- What the strategies may consult. -/
structure CoreInputs where
  /-- The compiler environment. -/
  env : CompilerEnvironment
  /-- The language version asked for. -/
  language : Option LanguageVersion
  /-- The target framework. -/
  target : TargetFramework
  /-- Answers questions about assembly files. -/
  inspector : Inspector
  /-- Where the language core is. -/
  languageCorePath : Option String
  /-- Where the base runtime is. -/
  baseRuntimePath : Option String

namespace CoreInputs

/-- The directory of the base runtime. -/
def besideBaseRuntime (inputs : CoreInputs) : Option String :=
  (given inputs.baseRuntimePath).map fun path ↦ (Path.parse path).parent.text

/-- Locates the named dependency of the language core. -/
def locateDependency (fs : FileSystem) (inputs : CoreInputs) (name core : String) :
    Attempt (Option String) := do
  match ← inputs.inspector.askReferences core with
  | .ok rows =>
    match rows.find? (·.name = name) with
    | some row => row.locate fs core inputs.env.runtimeDirectory inputs.env.caches
    | none => return none
  | failed =>
    Attempt.note (.coreUnread core failed.status failed.detail)
    return none

end CoreInputs

/-- Looks a core assembly up by one strategy. -/
def CoreStrategy.run (fs : FileSystem) (inputs : CoreInputs) (name : String) :
    CoreStrategy → Attempt (Option String)
  | .defaultDirectories =>
    findDefaultReference fs inputs.env inputs.language inputs.target name
  | .besideBaseRuntime =>
    findDefaultReference fs inputs.env inputs.language inputs.target name inputs.besideBaseRuntime
  | .languageCoreDependency =>
    match inputs.languageCorePath with
    | none => return none
    | some core => inputs.locateDependency fs name core

/-- A core assembly and the strategies for it, in order. -/
structure CoreLookup where
  /-- The name of the assembly. -/
  name : String
  /-- The strategies to try. -/
  strategies : List CoreStrategy

/-- The lookups of each case. -/
def CoreCase.lookups : CoreCase → List CoreLookup
  | .bothPresent => []
  | .missingLanguageCore => [⟨languageCore, [.besideBaseRuntime]⟩]
  | .missingBaseRuntime => [⟨baseRuntime, [.languageCoreDependency]⟩]
  | .missingBoth =>
    [⟨languageCore, [.defaultDirectories]⟩, ⟨baseRuntime, [.defaultDirectories]⟩]

/-- The result of the first strategy that has one. -/
def firstResult (fs : FileSystem) (inputs : CoreInputs) (name : String) :
    List CoreStrategy → Attempt (Option String)
  | [] => return none
  | strategy :: rest => do
    match ← strategy.run fs inputs name with
    | some path => return some path
    | none => firstResult fs inputs name rest

/-- The outcome of reconciling. -/
structure Reconciliation where
  /-- Which case applied. -/
  case : CoreCase
  /-- The paths found, in the order of the lookups. -/
  added : List String := []
  /-- The names that stay unresolved. -/
  unresolved : List String := []
  deriving DecidableEq, Repr

namespace Reconciliation

/-- Makes one lookup. -/
def addLookup (fs : FileSystem) (inputs : CoreInputs) (r : Reconciliation) (lookup : CoreLookup) :
    Attempt Reconciliation := do
  match ← firstResult fs inputs lookup.name lookup.strategies with
  | some path => return { r with added := r.added ++ [path] }
  | none =>
    Attempt.note (.coreUnresolved lookup.name)
    return { r with unresolved := r.unresolved ++ [lookup.name] }

end Reconciliation

namespace ReferenceSet

/-- Which core assemblies a set has. -/
def coreCase (set : ReferenceSet) : CoreCase :=
  .classify (set.find? languageCore) (set.find? baseRuntime)

/-- What the lookups for a set may consult. -/
def coreInputs (set : ReferenceSet) (env : CompilerEnvironment)
    (language : Option LanguageVersion) (target : TargetFramework) (inspector : Inspector) :
    CoreInputs :=
  { env, language, target, inspector
    languageCorePath := set.find? languageCore
    baseRuntimePath := set.find? baseRuntime }

/-- Decides which core assemblies a set lacks and looks them up. -/
def reconcile (set : ReferenceSet) (fs : FileSystem) (env : CompilerEnvironment)
    (language : Option LanguageVersion) (target : TargetFramework) (inspector : Inspector) :
    Attempt Reconciliation :=
  set.coreCase.lookups.foldlM
    (Reconciliation.addLookup fs (set.coreInputs env language target inspector))
    { case := set.coreCase }

end ReferenceSet

end FSharpFlags
