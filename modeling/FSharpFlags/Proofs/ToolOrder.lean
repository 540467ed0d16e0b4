import FSharpFlags.Proofs.FrameworkChoice
import FSharpFlags.Tool.Search

/-!
# Looking for a tool is one ordered search

A tool of a given name is looked for three times: in the directories of the runtime, in those of the
search path and in the default compiler folder. Each time all extensions are tried in a directory
before the next one is opened. So the three searches are one search of the three lists behind each
other, and it is the directory that decides and not the extension: a `.bat` file of the runtime
comes before a program without extension in the search path.

A directory counts if its text is not empty and it can be listed. That it cannot be listed is no
failure, so a search fails only at a directory that is no path at all because its text holds NUL.

The directories of the runtime are those for its default framework. Where no framework can be
chosen, although some are listed, there is no search, and the tool is not found for that reason.
-/

namespace FSharpFlags

variable {fs : FileSystem} {name directory fileName : String}
  {extensions directories front : List String} {t : ToolLocation}

/-! ## Searches behind each other -/

section FoundOr

variable {α β : Type}

/-- What a search finds, or else what another one finds. A search that fails ends both. -/
def foundOr (found rest : Except Failure (Option α)) : Except Failure (Option α) :=
  found.bind fun
    | some a => .ok (some a)
    | none => rest

theorem foundOr_none_right (found : Except Failure (Option α)) :
    foundOr found (.ok none) = found := by
  cases found with
  | error failure => rfl
  | ok answer => cases answer <;> rfl

theorem foundOr_assoc (x y z : Except Failure (Option α)) :
    foundOr (foundOr x y) z = foundOr x (foundOr y z) := by
  cases x with
  | error failure => rfl
  | ok answer => cases answer <;> rfl

theorem foundOr_eq_ok_some_iff {x y : Except Failure (Option α)} {a : α} :
    foundOr x y = .ok (some a) ↔ x = .ok (some a) ∨ x = .ok none ∧ y = .ok (some a) := by
  obtain failure | (_ | b) := x
  · simp [foundOr, Except.bind]
  · simp [foundOr, Except.bind]
  · simp [foundOr, Except.bind]

end FoundOr

/-! ## One directory -/

/-- The names of the files in a directory that can be listed, and otherwise none. -/
def FileSystem.fileNames (fs : FileSystem) (directory : String) : List String :=
  match fs.list directory with
  | .ok entries => (entries.filter (·.2.isFile)).map (·.1)
  | .error _ => []

theorem FileSystem.mem_fileNames_iff :
    fileName ∈ fs.fileNames directory ↔
      ∃ entries, fs.list directory = .ok entries
        ∧ ∃ node, (fileName, node) ∈ entries ∧ node.isFile = true := by
  unfold fileNames
  cases fs.list directory with
  | error failure => simp
  | ok entries => simp [and_comm]

/-- What one directory contributes to the search for a tool. -/
def toolIn (fs : FileSystem) (name : String) (extensions : List String) (directory : String) :
    Except Failure (Option ToolLocation) :=
  if directory.isEmpty then .ok none
  else (fileNamesIn fs directory).map fun present ↦
    ((extensions.map (name ++ ·)).find? present.contains).map fun fileName ↦ ⟨directory, fileName⟩

theorem findTool_cons (fs : FileSystem) (name : String) (extensions : List String)
    (directory : String) (rest : List String) :
    findTool fs name extensions (directory :: rest)
      = foundOr (toolIn fs name extensions directory) (findTool fs name extensions rest) := by
  rw [findTool, toolIn]
  split
  · rfl
  · cases fileNamesIn fs directory with
    | error failure => rfl
    | ok present =>
      simp only [Except.map, foundOr, bind, Except.bind]
      cases (extensions.map (name ++ ·)).find? present.contains <;> rfl

/-- Whether a directory counts in a search and holds a file of the name: its text is not empty, it
can be listed, and the file is one of its entries. -/
def Offers (fs : FileSystem) (directory fileName : String) : Prop :=
  directory ≠ "" ∧ ∃ entries, fs.list directory = .ok entries
    ∧ ∃ node, (fileName, node) ∈ entries ∧ node.isFile = true

theorem contains_fileNames_iff (h : directory ≠ "") :
    (fs.fileNames directory).contains fileName = true ↔ Offers fs directory fileName := by
  rw [List.contains_iff_mem, FileSystem.mem_fileNames_iff, Offers, and_iff_right h]

namespace ToolContext

variable {c : ToolContext} {candidates : List FrameworkDescriptor}

theorem outcome_firstFound_cons (c : ToolContext) (framework : Moniker) (strategy : ToolStrategy)
    (rest : List ToolStrategy) :
    (c.firstFound framework (strategy :: rest)).outcome
      = foundOr (c.run framework strategy) (c.firstFound framework rest).outcome := by
  rw [firstFound, Attempt.outcome_bind]
  show (c.run framework strategy).bind _ = _
  refine congrArg _ (funext fun found ↦ ?_)
  cases found <;> rfl

theorem outcome_search (c : ToolContext) (strategies : List ToolStrategy) :
    (c.search strategies).outcome = c.runtime.defaultFramework.bind fun framework ↦
      (c.firstFound framework.moniker strategies).outcome := by
  rw [search, Attempt.outcome_bind]
  rfl

end ToolContext

end FSharpFlags
