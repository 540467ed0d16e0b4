import FSharpFlags.Assembly.Listing
import FSharpFlags.Runtime.Basic

/-!
# Mono installations

Everything about a Mono installation is read off the directories beneath its root (such as
`/usr/lib/mono`):

* `<version>` and `<version>-api` hold the assemblies of a desktop framework, with its facades in
  `Facades` beneath either;
* `xbuild-frameworks/<family>/v<version>` and, for a profile, `Profile/<profile>` beneath it, hold
  the installable frameworks;
* the tools lie in `bin`, two levels up.
-/

namespace FSharpFlags

namespace MonoInstall

/-- The root of the installable frameworks. -/
def frameworksRoot (root : Path) : Path := root.child "xbuild-frameworks"

/-- The version whose facades serve a framework that has none. -/
def fallbackVersion : String := "4.5"

/-- The directories of a desktop framework. -/
def desktopDirectories (root : Path) (version : String) : List Path :=
  [root.child (Moniker.bareVersion version), root.child (Moniker.bareVersion version ++ "-api")]

/-- The names of the directories in a directory, in order; none when it cannot be listed. -/
def subdirectories (fs : FileSystem) (directory : Path) : Except Failure (List String) :=
  let found : Except Failure (List String) := do
    let entries ← fs.list directory.text
    let names ← (entries.map (·.1)).filterM fun name ↦ fs.isDirectory (directory.entry name).text
    return FileSystem.sortedNames names
  match found with
  | .ok names => .ok names
  | .error failure => if failure.isFileFault then .ok [] else .error failure

/-- The frameworks of one version directory: the full one, then its profiles. -/
def versionFrameworks (fs : FileSystem) (family : String) (directory : Path) :
    Except Failure (List FrameworkDescriptor) := do
  let version := Moniker.bareVersion directory.name
  let profiles ← subdirectories fs (directory.child "Profile")
  return ⟨⟨family, version, ""⟩, ""⟩ ::
    profiles.map fun profile ↦ ⟨⟨family, version, profile⟩, ""⟩

/-- The frameworks of one family. -/
def familyFrameworks (fs : FileSystem) (root : Path) (family : String) :
    Except Failure (List FrameworkDescriptor) := do
  let directory := (frameworksRoot root).entry family
  let versions ← subdirectories fs directory
  return (← versions.mapM fun version ↦
    versionFrameworks fs family (directory.entry version)).flatten

/-- Every framework beneath the root, in the order of the directory names. -/
def frameworks (fs : FileSystem) (root : Path) : Except Failure (List FrameworkDescriptor) := do
  let families ← subdirectories fs (frameworksRoot root)
  return (← families.mapM (familyFrameworks fs root)).flatten

/-- Whether one of the paths names a directory; the first that does ends the search. -/
def anyDirectory (fs : FileSystem) : List Path → Except Failure Bool
  | [] => .ok false
  | p :: rest => do
    if ← fs.isDirectory p.text then return true else anyDirectory fs rest

/-- Whether a framework has its directory. -/
def isInstalled (fs : FileSystem) (root : Path) (m : Moniker) : Except Failure Bool :=
  if m.identifier = Moniker.desktop ∧ m.isPortable = false then
    anyDirectory fs (desktopDirectories root m.version)
  else fs.isDirectory ((frameworksRoot root).join m.assemblyDirectory).text

/-- The directories that may hold tools. -/
def toolDirectories (root : Path) (m : Moniker) : List String :=
  (desktopDirectories root m.version).map Path.text ++ [(root.parent.parent.child "bin").text]

/-- The libraries of the first of the given facade directories that exists. -/
def firstFacades (fs : FileSystem) : List Path → Except Failure (List String)
  | [] => .ok []
  | p :: rest => do
    if ← fs.isDirectory p.text then fs.libraries p else firstFacades fs rest

/-- The facades of a framework. -/
def facades (fs : FileSystem) (root : Path) (m : Moniker) : Except Failure (List String) :=
  firstFacades fs <|
    (desktopDirectories root m.version ++ desktopDirectories root fallbackVersion).map
      (·.child "Facades")

/-- The installation as a target runtime. -/
def runtime (fs : FileSystem) (root : Path) : TargetRuntime where
  frameworks := frameworks fs root
  isInstalled framework := isInstalled fs root framework
  toolDirectories := toolDirectories root
  referenceDirectories := [(frameworksRoot root).text]
  facades := facades fs root

end MonoInstall

end FSharpFlags
