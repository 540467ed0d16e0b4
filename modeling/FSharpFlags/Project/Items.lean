import FSharpFlags.Path.Basic
import FSharpFlags.Path.FileName
import FSharpFlags.Project.Basic
import FSharpFlags.Reference.Key
import FSharpFlags.Text.LowerCase

/-!
# Project items

What the build does with the items of a project. Compile order is declaration order, except that
the files of shared-assets projects come first; the sort is stable, so the order stays otherwise.
-/

namespace FSharpFlags

/-- Whether an item is a file that the compiler gets. -/
def ProjectFile.isCompileItem (f : ProjectFile) : Bool :=
  f.buildAction = "Compile" && !f.isDirectory

/-- The suffix of a path in lower case. -/
def lowerSuffix (path : String) : String := toLowerCase (Path.parse path).suffix

/-- Whether a path is that of a source or signature file. -/
def isSource (path : String) : Bool := [".fs", ".fsi"].contains (lowerSuffix path)

/-- Whether a path is that of a script. -/
def isScript (path : String) : Bool := [".fsx", ".fsscript"].contains (lowerSuffix path)

/-- The name under which a resource is embedded: dots for separators. -/
def logicalResourceName (virtualPath : String) : String :=
  String.ofList (virtualPath.toList.map fun c ↦ if c = '\\' || c = '/' then '.' else c)

namespace Project

/-- The keys of the files of the shared-assets projects. -/
def sharedKeys (p : Project) : List String :=
  ((p.references.filter (·.sharedAssets)).filterMap p.resolveProject).flatMap fun shared ↦
    shared.files.map fun f ↦ referenceKey f.path

/-- The source files in declaration order. -/
def sourceItems (p : Project) : List ProjectFile :=
  p.files.filter fun f ↦ f.isCompileItem && isSource f.path

/-- Whether an item is none of the files of the shared-assets projects, by its key. -/
def isUnshared (p : Project) (f : ProjectFile) : Bool :=
  !p.sharedKeys.contains (referenceKey f.path)

/-- The paths of the source files in compile order: sorted by whether they are unshared. -/
def compiledFiles (p : Project) : List String :=
  (p.sourceItems.mergeSort fun f g ↦ !p.isUnshared f || p.isUnshared g).map (·.path)

/-- The full paths of all compile items, scripts included. -/
def sourceFiles (p : Project) (currentDirectory : String) : List String :=
  (p.files.filter ProjectFile.isCompileItem).map fun f ↦
    ((Path.parse f.path).absolute currentDirectory).text

/-- The embedded resources as file names and logical names. -/
def resources (p : Project) : List (String × String) :=
  (p.files.filter fun f ↦ !f.isDirectory && f.buildAction = "EmbeddedResource").map fun f ↦
    (fileNameOf f.path, logicalResourceName f.virtualPath)

end Project

/-- The preprocessor symbols for editing a file, possibly as a part of a project. -/
def defineSymbols (path : String) (p : Option Project) (selection : Selection) : List String :=
  let mode := if isScript path then ["INTERACTIVE", "EDITING"] else ["COMPILED", "EDITING"]
  let settings := p.bind fun p ↦
    (p.configuration (p.selector selection)).bind Configuration.settings?
  mode ++ (settings.map (·.defines)).getD []

end FSharpFlags
