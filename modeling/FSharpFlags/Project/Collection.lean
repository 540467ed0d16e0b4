import FSharpFlags.Assembly.Listing
import FSharpFlags.Path.FileName
import FSharpFlags.Project.Basic
import FSharpFlags.Reference.Set

/-!
# Collecting references

Each declared reference of a project stands for zero or more paths: a hint path for an assembly,
the locations of a package, the output of another project. What cannot be resolved contributes
nothing. A portable project takes, besides, every assembly of its profile.
-/

namespace FSharpFlags

/-- Replaces every occurrence of a text, from left to right; the text to replace is not empty. -/
def replaceAll (old new : List Char) : List Char → List Char
  | [] => []
  | c :: rest =>
    if old.isPrefixOf (c :: rest) then
      if old.isEmpty then c :: rest else new ++ replaceAll old new (rest.drop (old.length - 1))
    else c :: replaceAll old new rest
termination_by cs => cs.length

/-- Where an old layout of the Mono framework keeps assemblies. -/
def formerMonoDirectory : String := "/Library/Frameworks/Mono.framework/External"

/-- Where they are kept now. -/
def currentMonoDirectory : String :=
  "/Library/Frameworks/Mono.framework/Versions/Current/lib/mono"

/-- A path text with the former Mono directory replaced by the current one. -/
def relocated (path : String) : String :=
  String.ofList (replaceAll formerMonoDirectory.toList currentMonoDirectory.toList path.toList)

namespace Project

/-- The hint path seen from the directory of the project file, in its current place. -/
def hintedPath (p : Project) (hint : String) : String :=
  relocated ((Path.parse p.fileName).parent.child hint).text

/-- The paths of a reference with a hint: the file hinted at, or its bare name. -/
def hintedPaths (fs : FileSystem) (p : Project) (r : DeclaredReference) :
    Except Failure (List String) :=
  match given r.hintPath with
  | none => .ok []
  | some hint => do
    let path := p.hintedPath hint
    if ← fs.isFile (Path.parse path).text then return [path] else return [fileNameOf hint]

/-- The identity that stands for a package as a whole. -/
def wholePackage : String := "System"

/-- The paths of a reference into a package. -/
def packagePaths (package : Package) (identity : String) : List String :=
  if identity = wholePackage then package.assemblies.map (·.location)
  else
    match package.assemblies.find? fun a ↦ a.name = identity || a.fullName = identity with
    | some assembly => [assembly.location]
    | none => []

/-- The output of the referenced project of the given name. -/
def outputPaths (p : Project) (selection : Selection) (identity : String) : List String :=
  match (p.neighbours selection).find? (·.name = identity) with
  | some neighbour => [neighbour.outputFile (neighbour.selector selection)]
  | none => []

/-- The paths that one declared reference stands for. -/
def pathsOf (fs : FileSystem) (p : Project) (selection : Selection) (r : DeclaredReference) :
    Except Failure (List String) :=
  match r.kind, r.package with
  | .assembly, _ => p.hintedPaths fs r
  | .package, none => p.hintedPaths fs r
  | .package, some package => .ok (packagePaths package r.identity)
  | .project, _ => .ok (p.outputPaths selection r.identity)
  | .custom, _ => .ok []

/-- The paths of all declared references of the wanted kinds, in declaration order. -/
def collect (fs : FileSystem) (p : Project) (selection : Selection)
    (wanted : ReferenceKind → Bool := fun _ ↦ true) : Except Failure (List String) := do
  return (← (p.references.filter (wanted ·.kind)).mapM (p.pathsOf fs selection)).flatten

/-- The name under which the reference assemblies of the project's profile are filed. -/
def portableMoniker (p : Project) : Moniker :=
  ⟨Moniker.portable, p.framework.version, p.framework.profile⟩

/-- The libraries of a profile in the first root that has portable reference assemblies. -/
def profileLibraries (fs : FileSystem) (m : Moniker) : List String → Except Failure (List String)
  | [] => .ok []
  | root :: rest => do
    if ← fs.isDirectory ((Path.parse root).child Moniker.portable).text then
      let directory := (Path.parse root).join m.assemblyDirectory
      if ← fs.isDirectory directory.text then fs.libraries directory else return []
    else profileLibraries fs m rest

/-- Every library of the project's portable profile, in order. -/
def portableLibraries (fs : FileSystem) (p : Project) : Except Failure (List String) :=
  profileLibraries fs p.portableMoniker p.runtime.referenceDirectories

/-- The references of a portable project. -/
def portableReferences (fs : FileSystem) (p : Project) (selection : Selection) :
    Except Failure ReferenceSet := do
  let declared ← p.collect fs selection
  let libraries ← p.portableLibraries fs
  return (ReferenceSet.ofList declared).extend libraries

end Project

end FSharpFlags
