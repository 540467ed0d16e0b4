import FSharpFlags.CommandLine.Footprint
import FSharpFlags.FileSystem.Build

/-!
# The program

The outer layer of the command line. It copies the part of the world that a run looks at into a
file system, runs the command there and writes what the run leaves behind.
-/

namespace FSharpFlags

/-- The variables that a run looks at. -/
def variableNames : List String :=
  ["PATH", "FSBIND_RUNTIME_DIR", "FSBIND_REFERENCE_ROOTS", "FSBIND_GAC_ROOTS",
    "FSBIND_COMPILER_BIN"]

/-- The variables that are set. -/
def readVariables : IO Variables :=
  variableNames.filterMapM fun name ↦ do return (← IO.getEnv name).map (name, ·)

/-- Copies the names beneath a path, down to a depth; a directory that cannot be listed is
closed. -/
def survey (depth : Nat) (path : String) (fs : FileSystem) : IO FileSystem := do
  try
    let place ← IO.FS.realPath path
    match (← place.metadata).type with
    | .file => return fs.withFile path ByteArray.empty
    | .dir =>
      match depth with
      | 0 => return fs.withDirectory path
      | depth + 1 =>
        try
          (← place.readDir).foldlM
            (fun fs entry ↦ survey depth (path ++ "/" ++ entry.fileName) fs)
            (fs.withDirectory path)
        catch _ => return (fs.withDirectory path).withClosed path
    | _ => return fs
  catch _ => return fs

/-- How deep the trees of an installation are. -/
def installationDepth : Nat := 8

/-- Copies the contents of a file; a file that cannot be read is closed. -/
def fetch (path : String) (fs : FileSystem) : IO FileSystem := do
  try
    return fs.withFile path (← IO.FS.readBinFile path)
  catch _ => return fs.withClosed path

/-- Copies a part of the world: the names first, then the contents. -/
def copy (part : Footprint) : IO FileSystem := do
  let fs := FileSystem.empty (← IO.currentDir).toString
  let stations := Footprint.stations fs.currentDirectory
  let located := fun (path : String) ↦ ((stations path).getLast?).getD "/"
  let fs ← part.trees.foldlM (fun fs path ↦ survey installationDepth (located path) fs) fs
  let fs ← part.directories.foldlM (fun fs path ↦ survey 1 (located path) fs) fs
  let fs ← (part.files.flatMap fun path ↦ (stations path).dropLast).foldlM
    (fun fs path ↦ survey 1 path fs) fs
  part.files.foldlM (fun fs path ↦ fetch (located path) fs) fs

/-- The file system for a command line. The project is chosen in a first copy, and the second one
also holds what it refers to. -/
def readWorld (vars : Variables) (a : Arguments) : IO FileSystem := do
  let known := Footprint.ofArguments vars a
  let fs ← copy known
  copy (known.append (Footprint.ofRun fs vars a))

/-- Writes how a run ends and gives its exit code. -/
def conclude : Ending → IO UInt32
  | .stopped stop => do
    if stop = .help then IO.print Arguments.usage else IO.eprint Arguments.usage
    return stop.exitCode.toUInt32
  | .finished outcome => do
    IO.print outcome.output
    IO.eprint outcome.remarks
    return outcome.exitCode.toUInt32
  | .failed failure => do
    IO.eprintln failure.message
    return 1

end FSharpFlags

open FSharpFlags in
/-- Runs the command line. -/
def main (words : List String) : IO UInt32 := do
  let vars ← readVariables
  let fs ←
    match Arguments.ofTexts words with
    | .ok a => readWorld vars a
    | .error _ => pure (FileSystem.empty "/")
  conclude (run fs vars words)
