import FSharpFlags.FileSystem.Basic
import FSharpFlags.Path.Basic

/-!
# The assemblies of a directory

Facade and profile directories are used as a whole: every library file in them, in the order of
the names.
-/

namespace FSharpFlags

namespace FileSystem

/-- Whether a name is that of a library. -/
def isLibraryName (name : String) : Bool := ".dll".toList.isSuffixOf name.toList

/-- The paths of the library files directly in a directory, in order. -/
def libraries (fs : FileSystem) (directory : Path) : Except Failure (List String) := do
  let names ← fs.namesIn directory.text isLibraryName
  (names.map fun name ↦ (directory.entry name).text).filterM fs.isFile

end FileSystem

end FSharpFlags
