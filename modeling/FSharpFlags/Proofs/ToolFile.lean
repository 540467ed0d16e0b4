import FSharpFlags.Proofs.Resolution
import FSharpFlags.Proofs.ToolOrder

/-!
# A tool that was found is no directory

A search through directories takes the files that are listed in them, and in a tree what is listed
as a file is a file under the path that is returned, if that path leads anywhere at all. So no path
that comes from a search names a directory, whichever strategy made the search.

The last strategy for the compiler and for the interactive shell is no search. It takes what it
finds under a fixed name in the compiler folder and only asks whether something is there. When it is
its turn and a directory has that name, the directory is returned as the tool. That is the only way
to get one.
-/

namespace FSharpFlags

variable {fs : FileSystem} {name directory fileName path : String}
  {extensions directories : List String} {t : ToolLocation}

/-! ## What a search returns is listed as a file -/

theorem eq_fileNames_of_fileNamesIn {names : List String}
    (h : fileNamesIn fs directory = .ok names) : names = fs.fileNames directory := by
  have hcases : fileNamesIn fs directory = .ok (fs.fileNames directory)
      ∨ ∃ failure, fileNamesIn fs directory = .error failure := by
    unfold fileNamesIn FileSystem.fileNames
    cases fs.list directory with
    | ok entries => exact .inl rfl
    | error failure =>
      by_cases hfault : failure.isFileFault = true
      · exact .inl (if_pos hfault)
      · exact .inr ⟨failure, if_neg hfault⟩
  rcases hcases with hnames | ⟨failure, hfailure⟩
  · exact Except.ok.inj (h.symm.trans hnames)
  · cases h.symm.trans hfailure

theorem offers_of_toolIn (h : toolIn fs name extensions directory = .ok (some t)) :
    Offers fs t.directory t.fileName := by
  by_cases hempty : directory.isEmpty = true
  · rw [toolIn, if_pos hempty] at h
    cases h
  rw [toolIn, if_neg hempty] at h
  cases hnames : fileNamesIn fs directory with
  | error failure => rw [hnames] at h; cases h
  | ok names =>
    rw [hnames] at h
    obtain ⟨fileName, hfound, rfl⟩ := Option.map_eq_some_iff.mp (Except.ok.inj h)
    have hcontains := List.find?_some hfound
    rw [eq_fileNames_of_fileNamesIn hnames] at hcontains
    exact (contains_fileNames_iff (by simpa using hempty)).mp hcontains

/-- What a search returns is listed as a file in its directory. -/
theorem offers_of_findTool (h : findTool fs name extensions directories = .ok (some t)) :
    Offers fs t.directory t.fileName := by
  induction directories with
  | nil => cases h
  | cons directory rest ih =>
    rw [findTool_cons, foundOr_eq_ok_some_iff] at h
    rcases h with htool | ⟨-, hrest⟩
    · exact offers_of_toolIn htool
    · exact ih hrest

/-! ## In a tree it is a file -/

theorem FileSystem.isDirectory_eq_ok_true_iff :
    fs.isDirectory path = .ok true ↔
      ∃ node, fs.resolve path = .ok node ∧ node.isDirectory = true := by
  unfold isDirectory examine
  cases fs.resolve path with
  | error failure =>
    simp only [reduceCtorEq, false_and, exists_false, iff_false]
    split <;> simp
  | ok node => simp

theorem Offers.not_isDirectory (htree : fs.IsTree) (h : Offers fs directory fileName) :
    fs.isDirectory (ToolLocation.fullPath ⟨directory, fileName⟩) ≠ .ok true := by
  obtain ⟨-, entries, hlist, listed, hlisted, hfile⟩ := h
  rw [Ne, FileSystem.isDirectory_eq_ok_true_iff]
  rintro ⟨node, hnode, hdirectory⟩
  have hentries := htree.resolve (FileSystem.resolve_of_list hlist)
  have hname : IsEntryName fileName := by
    cases hentries with
    | directory nodup names nodes => exact names _ hlisted
  have hlookup := FileSystem.lookup_of_resolve_child hlist hname hnode
  rw [hentries.eq_of_lookup hlookup hlisted, Node.isFile_eq_not_isDirectory, hdirectory] at hfile
  cases hfile

theorem not_isDirectory_of_findTool (htree : fs.IsTree)
    (h : (findTool fs name extensions directories).map (Option.map ToolLocation.fullPath)
      = .ok (some path)) : fs.isDirectory path ≠ .ok true := by
  cases hfind : findTool fs name extensions directories with
  | error failure => rw [hfind] at h; cases h
  | ok found =>
    rw [hfind] at h
    obtain ⟨t, rfl, rfl⟩ := Option.map_eq_some_iff.mp (Except.ok.inj h)
    exact (offers_of_findTool hfind).not_isDirectory htree

/-! ## Strategies -/

/-- Whether a strategy searches directories, and does not ask for one fixed file. -/
def ToolStrategy.isSearch : ToolStrategy → Bool
  | .compilerFile _ => false
  | _ => true

namespace ToolContext

variable {c : ToolContext} {framework : Moniker} {strategy : ToolStrategy}
  {strategies front : List ToolStrategy}

theorem not_isDirectory_of_run (htree : c.fs.IsTree) (hsearch : strategy.isSearch = true)
    (h : c.run framework strategy = .ok (some path)) : c.fs.isDirectory path ≠ .ok true := by
  cases strategy with
  | runtimeTool name => exact not_isDirectory_of_findTool htree h
  | shellTool name => exact not_isDirectory_of_findTool htree h
  | compilerFile fileName => cases hsearch
  | compilerTool name => exact not_isDirectory_of_findTool htree h

/-- No search returns a directory, and so no list of searches does. -/
theorem not_isDirectory_of_firstFound (htree : c.fs.IsTree)
    (hsearch : ∀ s ∈ strategies, s.isSearch = true)
    (h : (c.firstFound framework strategies).outcome = .ok (some path)) :
    c.fs.isDirectory path ≠ .ok true := by
  induction strategies with
  | nil => cases h
  | cons strategy rest ih =>
    rw [List.forall_mem_cons] at hsearch
    rw [outcome_firstFound_cons, foundOr_eq_ok_some_iff] at h
    rcases h with hrun | ⟨-, hrest⟩
    · exact not_isDirectory_of_run htree hsearch.1 hrun
    · exact ih hsearch.2 hrest

theorem outcome_firstFound_append (c : ToolContext) (framework : Moniker)
    (front back : List ToolStrategy) :
    (c.firstFound framework (front ++ back)).outcome
      = foundOr (c.firstFound framework front).outcome (c.firstFound framework back).outcome := by
  induction front with
  | nil => rfl
  | cons strategy rest ih =>
    rw [List.cons_append, outcome_firstFound_cons, outcome_firstFound_cons, ih, foundOr_assoc]

/-- The path of a file in the compiler folder, whether or not something is there. -/
def compilerFile? (c : ToolContext) (fileName : String) : Option String :=
  (c.env.compilerDirectory? c.fs).map fun directory ↦ ((Path.parse directory).child fileName).text

theorem run_compilerFile_eq_ok_some_iff :
    c.run framework (.compilerFile fileName) = .ok (some path) ↔
      c.compilerFile? fileName = some path ∧ c.fs.reaches path = true := by
  rw [run, Except.ok.injEq, Option.filter_eq_some_iff, compilerFile?]

/-- Searches with one fixed file behind them return a directory just when the searches find nothing
and it is the file that is a directory. -/
theorem isDirectory_firstFound_iff (htree : c.fs.IsTree)
    (hsearch : ∀ s ∈ front, s.isSearch = true) :
    (c.firstFound framework (front ++ [.compilerFile fileName])).outcome = .ok (some path)
        ∧ c.fs.isDirectory path = .ok true
      ↔ ((c.firstFound framework front).outcome = .ok none ∧ c.compilerFile? fileName = some path)
        ∧ c.fs.isDirectory path = .ok true := by
  have hlast : (c.firstFound framework [.compilerFile fileName]).outcome
      = c.run framework (.compilerFile fileName) := by
    rw [outcome_firstFound_cons]
    exact foundOr_none_right _
  refine and_congr_left fun hdirectory ↦ ?_
  have hreaches : c.fs.reaches path = true := by
    obtain ⟨node, hnode, -⟩ := FileSystem.isDirectory_eq_ok_true_iff.mp hdirectory
    rw [FileSystem.reaches, hnode]
  rw [outcome_firstFound_append, foundOr_eq_ok_some_iff, hlast, run_compilerFile_eq_ok_some_iff,
    and_iff_left hreaches]
  exact or_iff_right fun hfront ↦ not_isDirectory_of_firstFound htree hsearch hfront hdirectory

theorem search_eq_ok_iff {answer : Option String} :
    (c.search strategies).outcome = .ok answer ↔
      ∃ framework, c.runtime.defaultFramework = .ok framework
        ∧ (c.firstFound framework.moniker strategies).outcome = .ok answer := by
  rw [outcome_search]
  exact bind_eq_ok_iff

theorem isDirectory_search_iff (htree : c.fs.IsTree) (hsearch : ∀ s ∈ front, s.isSearch = true) :
    (c.search (front ++ [.compilerFile fileName])).outcome = .ok (some path)
        ∧ c.fs.isDirectory path = .ok true
      ↔ c.compilerFile? fileName = some path ∧ c.fs.isDirectory path = .ok true
        ∧ (c.search front).outcome = .ok none := by
  rw [search_eq_ok_iff, search_eq_ok_iff]
  constructor
  · rintro ⟨⟨framework, hframework, hfound⟩, hdirectory⟩
    obtain ⟨⟨hnone, hfile⟩, -⟩ := (isDirectory_firstFound_iff htree hsearch).mp ⟨hfound, hdirectory⟩
    exact ⟨hfile, hdirectory, framework, hframework, hnone⟩
  · rintro ⟨hfile, hdirectory, framework, hframework, hnone⟩
    exact ⟨⟨framework, hframework,
      ((isDirectory_firstFound_iff htree hsearch).mpr ⟨⟨hnone, hfile⟩, hdirectory⟩).1⟩, hdirectory⟩

/-- **A tool that was found is no directory**, but for one case. In a tree neither the lookup of a
tool of any name nor that of the compiler of the runtime returns a directory. The lookup of the
default compiler and that of the default interactive shell return a directory just when their
searches find nothing and the file of the compiler folder that comes last is that directory. -/
theorem isDirectory_of_discovered (c : ToolContext) (htree : c.fs.IsTree) (path : String) :
    (∀ name, (c.locate name).outcome = .ok (some path) → c.fs.isDirectory path ≠ .ok true)
      ∧ (∀ framework, (c.runtimeCompiler framework).outcome = .ok (some path) →
        c.fs.isDirectory path ≠ .ok true)
      ∧ (c.compiler.outcome = .ok (some path) ∧ c.fs.isDirectory path = .ok true ↔
        c.compilerFile? "fsc.exe" = some path ∧ c.fs.isDirectory path = .ok true
          ∧ (c.search (compilerStrategies.filter (·.isSearch))).outcome = .ok none)
      ∧ (c.interactive.outcome = .ok (some path) ∧ c.fs.isDirectory path = .ok true ↔
        c.compilerFile? "fsi.exe" = some path ∧ c.fs.isDirectory path = .ok true
          ∧ (c.search (interactiveStrategies.filter (·.isSearch))).outcome = .ok none) := by
  refine ⟨fun name hfound ↦ ?_, fun framework hfound ↦ ?_, ?_, ?_⟩
  · obtain ⟨framework, -, hfirst⟩ := search_eq_ok_iff.mp hfound
    exact not_isDirectory_of_firstFound htree (by simp [toolStrategies, ToolStrategy.isSearch])
      hfirst
  · exact not_isDirectory_of_firstFound htree (by decide) hfound
  · show (c.search (compilerStrategies.filter (·.isSearch) ++ [.compilerFile "fsc.exe"])).outcome
        = _ ∧ _ ↔ _
    exact isDirectory_search_iff htree fun s hs ↦ List.of_mem_filter hs
  · show (c.search (interactiveStrategies.filter (·.isSearch) ++ [.compilerFile "fsi.exe"])).outcome
        = _ ∧ _ ↔ _
    exact isDirectory_search_iff htree fun s hs ↦ List.of_mem_filter hs

/-! ### Instances -/

/-- A compiler folder in which a directory has the name of the compiler, and a closed directory that
holds the compiler. -/
def folderFiles : FileSystem :=
  ((((FileSystem.empty "/").withDirectory "/fsharp/fsc.exe").withFile "/fsharp/fsc.bat"
    .empty).withFile "/closed/fsc" .empty).withClosed "/closed"

theorem isTree_folderFiles : folderFiles.IsTree := by
  have hplain : ∀ path ∈ ["/", "/fsharp/fsc.exe", "/fsharp/fsc.bat", "/closed/fsc"],
      FileSystem.IsPlainPath path := by decide +kernel
  have hempty := FileSystem.isTree_empty (hplain "/" (by simp))
  have hdirectory := hempty.withDirectory (hplain "/fsharp/fsc.exe" (by simp))
  have hfile := hdirectory.withFile (hplain "/fsharp/fsc.bat" (by simp)) .empty
  exact (hfile.withFile (hplain "/closed/fsc" (by simp)) .empty).withClosed "/closed"

/-- A context with nothing but these directories. -/
def folderContext : ToolContext where
  fs := folderFiles
  runtime := TargetRuntime.installing [TargetRuntime.desktopVersion "4.5"]
  env := { compilerDirectories := ["/fsharp"] }
  vars := [("PATH", "/closed")]

/-- The lookup by name passes the directory over, the lookup of the default compiler takes it. -/
theorem isDirectory_of_discovered_folder :
    (folderContext.locate "fsc").outcome = .ok (some "/fsharp/fsc.bat")
      ∧ folderContext.fs.isDirectory "/fsharp/fsc.bat" ≠ .ok true
      ∧ folderContext.compiler.outcome = .ok (some "/fsharp/fsc.exe") := by
  have hlocate : (folderContext.locate "fsc").outcome = .ok (some "/fsharp/fsc.bat") := by
    decide +kernel
  have hfile : folderContext.compilerFile? "fsc.exe" = some "/fsharp/fsc.exe"
      ∧ folderContext.fs.isDirectory "/fsharp/fsc.exe" = .ok true
      ∧ (folderContext.search (compilerStrategies.filter (·.isSearch))).outcome = .ok none := by
    decide +kernel
  obtain ⟨hnever, -⟩ := isDirectory_of_discovered folderContext isTree_folderFiles "/fsharp/fsc.bat"
  obtain ⟨-, -, hcompiler, -⟩ :=
    isDirectory_of_discovered folderContext isTree_folderFiles "/fsharp/fsc.exe"
  exact ⟨hlocate, hnever "fsc" hlocate, (hcompiler.mpr hfile).1⟩

/-- The default compiler is a directory here. -/
theorem compiler_folder :
    folderContext.fs.IsTree
      ∧ ¬∀ path, folderContext.compiler.outcome = .ok (some path) →
        folderContext.fs.isDirectory path ≠ .ok true := by
  refine ⟨isTree_folderFiles, fun hnever ↦ hnever "/fsharp/fsc.exe" ?_ ?_⟩
  · decide +kernel
  · decide +kernel

end ToolContext

end FSharpFlags
