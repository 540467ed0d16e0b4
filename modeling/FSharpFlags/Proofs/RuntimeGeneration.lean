import FSharpFlags.Proofs.DependencySearch

/-!
# Which runtime a dependency is taken from

A runtime keeps the assemblies of its generations in directories beside each other, named by
version. A dependency that is not beside the referring assembly is looked for in the directory of
the running framework first, whatever its generation, and then in the directories for the major
version that is asked for. So while one of the latter has the file, the caches play no part; and the
file comes from one of them, the first that has it, unless the directory of the running framework
has a file of that name too.
-/

namespace FSharpFlags

namespace AssemblyReference

variable {fs : FileSystem} {r : AssemblyReference} {referencing directory path : String}
  {caches : List String}

/-- Past the directory of the referring assembly and that of the running framework, the directories
for the major version come before the caches. -/
theorem find?_candidates_of_versionDirectories
    (hdirectory : given (some directory) = some directory)
    (hbeside : fs.holdsFile (r.fileIn (Path.parse referencing).parent) = false)
    (hrunning : fs.holdsFile (r.fileIn (Path.parse directory)) = false)
    (hversion : ((r.versionDirectories (Path.parse directory)).map r.fileIn).find? fs.holdsFile
      = some path) :
    (r.candidates fs referencing (some directory) caches).find? fs.holdsFile = some path := by
  rw [candidates, runtimeDirectories, hdirectory, List.map_append, List.map_cons, List.map_cons,
    List.find?_append, List.find?_cons, hbeside, List.find?_cons, hrunning, hversion,
    Option.some_or]

theorem find?_candidates_of_running
    (hdirectory : given (some directory) = some directory)
    (hbeside : fs.holdsFile (r.fileIn (Path.parse referencing).parent) = false)
    (hrunning : fs.holdsFile (r.fileIn (Path.parse directory)) = true) :
    (r.candidates fs referencing (some directory) caches).find? fs.holdsFile
      = some (r.fileIn (Path.parse directory)) := by
  rw [candidates, runtimeDirectories, hdirectory, List.map_append, List.map_cons, List.map_cons,
    List.find?_append, List.find?_cons, hbeside, List.find?_cons, hrunning, Option.some_or]

/-- **A dependency that a version directory has** is found. It is taken from the directory of the
running framework if that has a file of the name, and otherwise from the first of the version
directories that has it. -/
theorem locate_generation (hdirectory : given (some directory) = some directory)
    (hlooks : ∀ path ∈ r.looks fs referencing (some directory) caches, fs.refusal? path = none)
    (hbeside : fs.holdsFile (r.fileIn (Path.parse referencing).parent) = false)
    (hversion : ∃ d ∈ r.versionDirectories (Path.parse directory),
      fs.holdsFile (r.fileIn d) = true) :
    ∃ path, (r.locate fs referencing (some directory) caches).outcome = .ok (some path)
      ∧ (fs.holdsFile (r.fileIn (Path.parse directory)) = true →
        path = r.fileIn (Path.parse directory))
      ∧ (fs.holdsFile (r.fileIn (Path.parse directory)) = false →
        ∃ d, IsFirstDirectory fs r (r.versionDirectories (Path.parse directory)) d
          ∧ path = r.fileIn d) := by
  rw [outcome_locate_of_looks hlooks]
  by_cases hrunning : fs.holdsFile (r.fileIn (Path.parse directory)) = true
  · refine ⟨r.fileIn (Path.parse directory), ?_, fun _ ↦ rfl, fun hnot ↦ ?_⟩
    · rw [find?_candidates_of_running hdirectory hbeside hrunning]
    · exact absurd hrunning (Bool.eq_false_iff.mp hnot)
  · obtain ⟨d, hd, hholds⟩ := hversion
    obtain ⟨path, hpath⟩ := Option.isSome_iff_exists.mp
      (List.find?_isSome.mpr ⟨r.fileIn d, List.mem_map_of_mem hd, hholds⟩)
    refine ⟨path, ?_, fun h ↦ absurd h hrunning, fun _ ↦ exists_isFirstDirectory hpath⟩
    rw [find?_candidates_of_versionDirectories hdirectory hbeside
      (Bool.eq_false_iff.mpr hrunning) hpath]

/-! ### Instances -/

/-- A reference to the core library of the second generation. -/
def secondGeneration : AssemblyReference where
  name := "mscorlib"
  version := { major := 2 }

/-- A running framework without the file leaves the choice to the directory for the major
version. -/
theorem locate_generation_second :
    given (some "/mono/4.0") = some "/mono/4.0"
      ∧ (secondGeneration.locate assemblyStore "/lib/B.dll" (some "/mono/4.0") ["/gac"]).outcome
        = .ok (some "/mono/2.0/mscorlib.dll") := by
  have hgiven : given (some "/mono/4.0") = some "/mono/4.0" := by decide +kernel
  have hlooks : ∀ path ∈ secondGeneration.looks assemblyStore "/lib/B.dll" (some "/mono/4.0")
      ["/gac"], assemblyStore.refusal? path = none := by decide +kernel
  obtain ⟨path, hpath, -, hversion⟩ :=
    locate_generation hgiven hlooks (by decide +kernel) (by decide +kernel)
  obtain ⟨d, hfirst, rfl⟩ := hversion (by decide +kernel)
  have hd : d = ⟨.root, ["mono", "2.0"]⟩ := List.mem_singleton.mp hfirst.mem
  refine ⟨hgiven, hpath.trans ?_⟩
  rw [hd]
  decide +kernel

/-- The directory of the running framework answers although it is of another generation and the
directory for the major version has the file. -/
theorem locate_otherGeneration :
    assemblyStore.holdsFile (secondGeneration.fileIn (Path.parse "/lib/B.dll").parent) = false
      ∧ (∀ path ∈ secondGeneration.looks assemblyStore "/lib/B.dll" (some "/mono/4.5") [],
        assemblyStore.refusal? path = none)
      ∧ (∃ d ∈ secondGeneration.versionDirectories (Path.parse "/mono/4.5"),
        assemblyStore.holdsFile (secondGeneration.fileIn d) = true)
      ∧ (secondGeneration.locate assemblyStore "/lib/B.dll" (some "/mono/4.5") []).outcome
        = .ok (some "/mono/4.5/mscorlib.dll")
      ∧ ∀ d ∈ secondGeneration.versionDirectories (Path.parse "/mono/4.5"),
        secondGeneration.fileIn d ≠ "/mono/4.5/mscorlib.dll" := by
  decide +kernel

end AssemblyReference

end FSharpFlags
