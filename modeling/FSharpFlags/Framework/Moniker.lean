import FSharpFlags.Framework.Version
import FSharpFlags.Path.Basic

/-!
# Framework monikers

A moniker names a framework by its family, its version and, for the restricted frameworks that
several platforms share, a profile. A framework with a profile is called portable. The version is
kept as it was written; where a version with its mark is wanted, a `v` is put in front unless one
is there.
-/

namespace FSharpFlags

/-- The name of a framework. -/
structure Moniker where
  /-- The family, such as `.NETFramework`. -/
  identifier : String
  /-- The version text, such as `4.5`. -/
  version : String
  /-- The profile, empty for a full framework. -/
  profile : String := ""
  deriving DecidableEq, Repr

namespace Moniker

/-- The family of the desktop frameworks. -/
def desktop : String := ".NETFramework"

/-- The family of the portable reference assemblies. -/
def portable : String := ".NETPortable"

/-- Whether the moniker carries a profile. -/
def isPortable (m : Moniker) : Bool := !m.profile.isEmpty

theorem isPortable_iff (m : Moniker) : m.isPortable = true ↔ m.profile ≠ "" := by
  simp [isPortable]

/-- Whether a text begins with the version mark `v`. -/
def isMarked (version : String) : Bool := version.toList.head? = some 'v'

/-- The version with its mark. -/
def markedVersion (version : String) : String :=
  if isMarked version then version else "v" ++ version

/-- The version without its mark. -/
def bareVersion (version : String) : String :=
  if isMarked version then String.ofList (version.toList.drop 1) else version

/-- The numbers of the version. -/
def parsedVersion (m : Moniker) : Except Failure Version := Version.parse m.version

/-- The directory of the reference assemblies, relative to a root of frameworks. -/
def assemblyDirectory (m : Moniker) : Path :=
  let family := (Path.parse m.identifier).child (markedVersion m.version)
  if m.isPortable then (family.child "Profile").child m.profile else family

/-- The full name of the framework. -/
def text (m : Moniker) : String :=
  let full := m.identifier ++ ",Version=" ++ markedVersion m.version
  if m.isPortable then full ++ ",Profile=" ++ m.profile else full

end Moniker

/-- A framework as a runtime lists it. -/
structure FrameworkDescriptor where
  /-- What the framework is called. -/
  moniker : Moniker
  /-- The name shown to people. -/
  displayName : String := ""
  deriving DecidableEq, Repr

/-- A descriptor may stand where what the framework is called is asked for. -/
instance : Coe FrameworkDescriptor Moniker where
  coe := FrameworkDescriptor.moniker

/-- A moniker may stand for a framework that is known by it alone. -/
instance : Coe Moniker FrameworkDescriptor where
  coe moniker := { moniker }

end FSharpFlags
