import FSharpFlags.Assembly.Reference
import FSharpFlags.Attempt
import FSharpFlags.FileSystem.Basic
import FSharpFlags.Path.Basic
import FSharpFlags.Text.Given

/-!
# Locating a dependency

The file of an assembly that another one refers to is looked for in a fixed order of places: next
to the referring assembly, in the directory of the running framework and its siblings for the
major version asked for, then in the global caches. The places outside the caches are known in
advance; a cache entry is named by version, culture and key token, and without a token every entry
of the version is tried in order.
-/

namespace FSharpFlags

namespace AssemblyReference

/-- The file that holds the assembly. -/
def fileName (r : AssemblyReference) : String := r.name ++ ".dll"

/-- The culture as cache entries spell it. -/
def cacheCulture (r : AssemblyReference) : String := if r.culture = "neutral" then "" else r.culture

/-- What the names of all cache entries of the version begin with. -/
def cacheMark (r : AssemblyReference) : String := r.version.text ++ "_"

/-- The cache entry of the full identity. -/
def cacheEntry (r : AssemblyReference) : String :=
  r.cacheMark ++ r.cacheCulture ++ "_" ++ r.keyToken

/-- The sibling directories of a framework that hold assemblies of a major version. -/
def siblingDirectories (major : Nat) : List String :=
  if 4 ≤ major then ["4.5", "4.0"]
  else if major = 2 then ["2.0"]
  else if major = 1 then ["1.0"]
  else []

/-- The places outside the caches, in order. -/
def nearbyPaths (r : AssemblyReference) (referencing : String) (runtimeDirectory : Option String) :
    List Path :=
  let beside := (Path.parse referencing).parent.child r.fileName
  match given runtimeDirectory with
  | none => [beside]
  | some directory =>
    let running := Path.parse directory
    beside :: running.child r.fileName ::
      (siblingDirectories r.version.major).map fun sibling ↦
        (running.parent.child sibling).child r.fileName

/-- The places in one cache, in order. -/
def cachePaths (fs : FileSystem) (r : AssemblyReference) (cache : String) :
    Except Failure (List Path) := do
  let base := (Path.parse cache).child r.name
  if r.keyToken.isEmpty then
    let entries ← fs.namesIn base.text fun name ↦ r.cacheMark.toList.isPrefixOf name.toList
    return entries.map fun entry ↦ (base.entry entry).child r.fileName
  else return [(base.child r.cacheEntry).child r.fileName]

/-- The first of the paths that names a file. -/
def firstFile (fs : FileSystem) : List Path → Except Failure (Option String)
  | [] => .ok none
  | p :: rest => do
    if ← fs.isFile p.text then return some p.text else firstFile fs rest

/-- The first file in the caches. -/
def firstCached (fs : FileSystem) (r : AssemblyReference) :
    List String → Except Failure (Option String)
  | [] => .ok none
  | cache :: rest => do
    match ← firstFile fs (← cachePaths fs r cache) with
    | some path => return some path
    | none => firstCached fs r rest

/-- The file of the assembly. -/
def locate (fs : FileSystem) (r : AssemblyReference) (referencing : String)
    (runtimeDirectory : Option String) (caches : List String) : Attempt (Option String) := do
  match ← firstFile fs (r.nearbyPaths referencing runtimeDirectory) with
  | some path => return some path
  | none =>
    match ← firstCached fs r caches with
    | some path => return some path
    | none =>
      Attempt.note (.dependencyMissing r.name r.version.text referencing)
      return none

end AssemblyReference

end FSharpFlags
