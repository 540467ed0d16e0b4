import FSharpFlags.Framework.Moniker

/-!
# Target frameworks and language versions

The reference assemblies of the language core are laid out by runtime generation and by the
version of the core assembly, which the language version decides. Both are closed lists; a project
whose framework is not on the list is treated as targeting the newest one.
-/

namespace FSharpFlags

/-- A generation of the runtime. -/
inductive Generation where
  | v2
  | v4
  deriving DecidableEq, Repr

/-- The name of the generation in assembly paths. -/
def Generation.text : Generation → String
  | .v2 => "v2.0"
  | .v4 => "v4.0"

/-- A desktop framework with its own reference assemblies. -/
inductive TargetFramework where
  | net20
  | net30
  | net35
  | net40
  | net45
  deriving DecidableEq, Repr

namespace TargetFramework

/-- The version of the framework. -/
def text : TargetFramework → String
  | .net20 => "2.0"
  | .net30 => "3.0"
  | .net35 => "3.5"
  | .net40 => "4.0"
  | .net45 => "4.5"

/-- Every target framework, oldest first. -/
def all : List TargetFramework := [.net20, .net30, .net35, .net40, .net45]

/-- The framework of a version text. -/
def ofText? (text : String) : Option TargetFramework := all.find? (·.text = text)

/-- The generation that runs the framework. -/
def generation : TargetFramework → Generation
  | .net40 | .net45 => .v4
  | _ => .v2

/-- The framework that a project with the given moniker targets. -/
def ofMoniker (m : Moniker) : TargetFramework :=
  if m.identifier = Moniker.desktop ∧ m.isPortable = false then
    (ofText? (Moniker.bareVersion m.version)).getD .net45
  else .net45

theorem ofText?_text (t : TargetFramework) : ofText? t.text = some t := by
  cases t <;> decide

end TargetFramework

/-- A version of the F# language. -/
inductive LanguageVersion where
  | fsharp20
  | fsharp30
  | fsharp31
  | fsharp40
  deriving DecidableEq, Repr

namespace LanguageVersion

/-- The text of the version. -/
def text : LanguageVersion → String
  | .fsharp20 => "2.0"
  | .fsharp30 => "3.0"
  | .fsharp31 => "3.1"
  | .fsharp40 => "4.0"

/-- Every language version, oldest first. -/
def all : List LanguageVersion := [.fsharp20, .fsharp30, .fsharp31, .fsharp40]

/-- The language version of a text. -/
def ofText? (text : String) : Option LanguageVersion := all.find? (·.text = text)

/-- The newest language version. -/
def latest : LanguageVersion := .fsharp40

/-- The version of the core assembly for a generation of the runtime. -/
def coreVersion : Generation → LanguageVersion → String
  | .v2, .fsharp20 => "2.3.0.0"
  | .v2, .fsharp30 => "2.3.0.0"
  | .v2, .fsharp31 => "2.3.5.0"
  | .v2, .fsharp40 => "2.3.5.0"
  | .v4, .fsharp20 => "4.0.0.0"
  | .v4, .fsharp30 => "4.3.0.0"
  | .v4, .fsharp31 => "4.3.1.0"
  | .v4, .fsharp40 => "4.4.0.0"

theorem ofText?_text (v : LanguageVersion) : ofText? v.text = some v := by
  cases v <;> decide

end LanguageVersion

/-- The version of the core assembly for a target framework, for the newest language version unless
another one is asked for. -/
def coreVersionFor (language : Option LanguageVersion) (target : TargetFramework) : String :=
  LanguageVersion.coreVersion target.generation (language.getD .latest)

end FSharpFlags
