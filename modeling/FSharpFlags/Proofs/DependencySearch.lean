import FSharpFlags.Proofs.RootedSearch

/-!
# Where a dependency is searched for

The places of a dependency are one list of directories, in each of which its file would have the
same name: the directory of the referring assembly, that of the running framework and its siblings
for the major version, then for each cache in turn the directories of its entries. A reference with
a key token names one entry of a cache. One without a token leaves the choice to the listing, and
every entry of the version counts, in the order of the names. A directory that is missing, that may
not be listed or that is a file has no entries.

Locating the dependency comes to the first of these places that holds a file, and to nothing when
none does. It fails only where the file system refuses a look, and what is looked at besides the
places are the directories that have to be listed. So a cache behind a closed directory ends the
search for a reference without a token, although no place was refused and one further on may have
the file.
-/

namespace FSharpFlags

namespace FileSystem

variable {fs : FileSystem} {path : String}

/-- Whether a path leads to a file. -/
def holdsFile (fs : FileSystem) (path : String) : Bool :=
  match fs.resolve path with
  | .ok node => node.isFile
  | .error _ => false

/-- The names in a directory; there are none in what is no directory or may not be listed. -/
def listedNames (fs : FileSystem) (path : String) : List String :=
  match fs.resolve path with
  | .ok (.directory entries false) => entries.map Prod.fst
  | _ => []

theorem eq_holdsFile_of_isFile {found : Bool} (h : fs.isFile path = .ok found) :
    found = fs.holdsFile path := by
  rw [isFile, examine] at h
  rw [holdsFile]
  cases hnode : fs.resolve path with
  | ok node =>
    rw [hnode] at h
    exact (Except.ok.inj h).symm
  | error failure =>
    rw [hnode] at h
    dsimp only at h ⊢
    split_ifs at h
    exact (Except.ok.inj h).symm

theorem sortedNames_nil : sortedNames [] = [] := by simp [sortedNames]

theorem eq_sortedNames_of_namesIn {keep : String → Bool} {names : List String}
    (h : fs.namesIn path keep = .ok names) :
    names = sortedNames ((fs.listedNames path).filter keep) := by
  obtain ⟨found, hfound, h⟩ := bind_eq_ok_iff.mp h
  rw [isDirectory, examine] at hfound
  unfold list at h
  rw [listedNames]
  -- A path that leads to no open directory has no names, whether it is looked at or listed.
  cases hnode : fs.resolve path with
  | error failure =>
    rw [hnode] at hfound
    dsimp only at hfound ⊢
    split_ifs at hfound
    obtain rfl := Except.ok.inj hfound
    rw [List.filter_nil, sortedNames_nil]
    exact (Except.ok.inj h).symm
  | ok node =>
    rw [hnode] at h hfound
    obtain rfl := Except.ok.inj hfound
    cases node with
    | file contents closed =>
      dsimp only
      rw [List.filter_nil, sortedNames_nil]
      exact (Except.ok.inj h).symm
    | directory entries closed =>
      cases closed with
      | false => exact (Except.ok.inj h).symm
      | true =>
        dsimp only
        rw [List.filter_nil, sortedNames_nil]
        exact (Except.ok.inj h).symm

end FileSystem

open FileSystem

/-- What the entries of a cache are called. -/
structure CacheEntry where
  /-- The version of the assembly. -/
  version : String
  /-- The culture, empty for none. -/
  culture : String
  /-- The key token, empty for none. -/
  keyToken : String
  deriving DecidableEq, Repr

/-- The name of an entry. -/
def CacheEntry.text (e : CacheEntry) : String :=
  e.version ++ "_" ++ e.culture ++ "_" ++ e.keyToken

namespace AssemblyReference

variable {fs : FileSystem} {r : AssemblyReference} {referencing : String}
  {runtimeDirectory : Option String} {caches : List String}

/-! ## Directories -/

/-- The directories beside the one of the running framework that are for the major version. -/
def versionDirectories (r : AssemblyReference) (running : Path) : List Path :=
  (siblingDirectories r.version.major).map running.parent.child

/-- The directories of the running framework, in order. -/
def runtimeDirectories (r : AssemblyReference) (runtimeDirectory : Option String) : List Path :=
  match given runtimeDirectory with
  | none => []
  | some directory => Path.parse directory :: r.versionDirectories (Path.parse directory)

/-- The directory of the assembly in a cache. -/
def cacheDirectory (r : AssemblyReference) (cache : String) : Path :=
  (Path.parse cache).child r.name

/-- The entry that has the full identity of the reference. -/
def fullEntry (r : AssemblyReference) : CacheEntry where
  version := r.version.text
  culture := if r.culture = "neutral" then "" else r.culture
  keyToken := r.keyToken

/-- The entries of a cache that come into question, in order. -/
def entries (fs : FileSystem) (r : AssemblyReference) (cache : String) : List String :=
  if r.keyToken.isEmpty then
    sortedNames ((fs.listedNames (r.cacheDirectory cache).text).filter fun name ↦
      (r.version.text ++ "_").toList.isPrefixOf name.toList)
  else [r.fullEntry.text]

/-- The directory of an entry. A name that was listed is one component; one that is asked for is
read as a path. -/
def entryDirectory (r : AssemblyReference) (cache entry : String) : Path :=
  if r.keyToken.isEmpty then (r.cacheDirectory cache).entry entry
  else (r.cacheDirectory cache).child entry

/-- The directories of the entries of a cache, in order. -/
def entryDirectories (fs : FileSystem) (r : AssemblyReference) (cache : String) : List Path :=
  (r.entries fs cache).map (r.entryDirectory cache)

/-- The file of the assembly in a directory. -/
def fileIn (r : AssemblyReference) (directory : Path) : String :=
  (directory.child (r.name ++ ".dll")).text

/-- All places of the file, in order. -/
def candidates (fs : FileSystem) (r : AssemblyReference) (referencing : String)
    (runtimeDirectory : Option String) (caches : List String) : List String :=
  ((Path.parse referencing).parent :: r.runtimeDirectories runtimeDirectory
    ++ caches.flatMap (r.entryDirectories fs)).map r.fileIn

theorem mem_entries_iff {cache entry : String} (h : r.keyToken.isEmpty = true) :
    entry ∈ r.entries fs cache ↔ entry ∈ fs.listedNames (r.cacheDirectory cache).text
      ∧ (r.version.text ++ "_").toList <+: entry.toList := by
  rw [entries, if_pos h, sortedNames, List.mem_mergeSort, List.mem_filter,
    List.isPrefixOf_iff_prefix]

/-! ## The search -/

theorem map_text_nearbyPaths (r : AssemblyReference) (referencing : String)
    (runtimeDirectory : Option String) :
    (r.nearbyPaths referencing runtimeDirectory).map Path.text
      = ((Path.parse referencing).parent :: r.runtimeDirectories runtimeDirectory).map
        r.fileIn := by
  rw [nearbyPaths, runtimeDirectories]
  cases given runtimeDirectory with
  | none => rfl
  | some directory => simp [versionDirectories, fileIn, fileName]

theorem map_text_of_cachePaths {cache : String} {places : List Path}
    (h : r.cachePaths fs cache = .ok places) :
    places.map Path.text = (r.entryDirectories fs cache).map r.fileIn := by
  unfold cachePaths at h
  rw [entryDirectories, entries, List.map_map]
  split at h
  · next hempty =>
    obtain ⟨names, hnames, h⟩ := bind_eq_ok_iff.mp h
    obtain rfl := Except.ok.inj h
    rw [if_pos hempty, eq_sortedNames_of_namesIn hnames, List.map_map]
    refine List.map_congr_left fun name _ ↦ ?_
    rw [Function.comp_apply, Function.comp_apply, entryDirectory, if_pos hempty]
    rfl
  · next hempty =>
    obtain rfl := Except.ok.inj h
    rw [if_neg hempty, List.map_singleton, List.map_singleton, Function.comp_apply, entryDirectory,
      if_neg hempty]
    rfl

theorem eq_find?_of_firstFile {places : List Path} {answer : Option String}
    (h : firstFile fs places = .ok answer) :
    answer = (places.map Path.text).find? fs.holdsFile := by
  induction places with
  | nil => exact (Except.ok.inj h).symm
  | cons p rest ih =>
    obtain ⟨found, hfound, h⟩ := bind_eq_ok_iff.mp h
    obtain rfl := eq_holdsFile_of_isFile hfound
    rw [List.map_cons, List.find?_cons]
    split at h
    · next htrue =>
      rw [htrue]
      exact (Except.ok.inj h).symm
    · next hfalse =>
      rw [Bool.eq_false_iff.mpr hfalse]
      exact ih h

theorem eq_find?_of_firstCached {answer : Option String}
    (h : r.firstCached fs caches = .ok answer) :
    answer = ((caches.flatMap (r.entryDirectories fs)).map r.fileIn).find? fs.holdsFile := by
  induction caches with
  | nil => exact (Except.ok.inj h).symm
  | cons cache rest ih =>
    obtain ⟨places, hplaces, h⟩ := bind_eq_ok_iff.mp h
    obtain ⟨first, hfirst, h⟩ := bind_eq_ok_iff.mp h
    have hcache := eq_find?_of_firstFile hfirst
    rw [map_text_of_cachePaths hplaces] at hcache
    rw [List.flatMap_cons, List.map_append, List.find?_append, ← hcache]
    cases first with
    | some path => exact (Except.ok.inj h).symm
    | none => exact ih h

/-- Whatever locating a dependency comes to is the first of its places that holds a file. -/
theorem eq_find?_of_locate {answer : Option String}
    (h : (r.locate fs referencing runtimeDirectory caches).outcome = .ok answer) :
    answer = (r.candidates fs referencing runtimeDirectory caches).find? fs.holdsFile := by
  rw [outcome_locate] at h
  obtain ⟨near, hnear, h⟩ := bind_eq_ok_iff.mp h
  have hnearby := eq_find?_of_firstFile hnear
  rw [map_text_nearbyPaths] at hnearby
  rw [candidates, List.map_append, List.find?_append, ← hnearby]
  cases near with
  | some path => exact (Except.ok.inj h).symm
  | none => exact eq_find?_of_firstCached h

/-- Whether a directory is the first of a list that has the file. -/
structure IsFirstDirectory (fs : FileSystem) (r : AssemblyReference) (directories : List Path)
    (d : Path) : Prop where
  /-- No directory in front has the file. -/
  split : ∃ before after, directories = before ++ d :: after
    ∧ ∀ e ∈ before, fs.holdsFile (r.fileIn e) = false
  /-- The directory has the file. -/
  holds : fs.holdsFile (r.fileIn d) = true

theorem IsFirstDirectory.mem {directories : List Path} {d : Path}
    (h : IsFirstDirectory fs r directories d) : d ∈ directories := by
  obtain ⟨before, after, rfl, -⟩ := h.split
  exact List.mem_append_right before List.mem_cons_self

/-- A search of some directories ends at the first that has the file. -/
theorem exists_isFirstDirectory {directories : List Path} {path : String}
    (h : (directories.map r.fileIn).find? fs.holdsFile = some path) :
    ∃ d, IsFirstDirectory fs r directories d ∧ path = r.fileIn d := by
  rw [List.find?_map, Option.map_eq_some_iff] at h
  obtain ⟨d, hd, rfl⟩ := h
  rw [List.find?_eq_some_iff_append] at hd
  simp only [Function.comp_apply, Bool.not_eq_true'] at hd
  obtain ⟨hholds, before, after, hsplit, hbefore⟩ := hd
  exact ⟨d, ⟨⟨before, after, hsplit, hbefore⟩, hholds⟩, rfl⟩

/-! ## What is looked at -/

theorem mem_of_mem_firstFileLooks {places : List Path} {path : String}
    (h : path ∈ firstFileLooks fs places) : path ∈ places.map Path.text := by
  induction places with
  | nil => exact h
  | cons p rest ih =>
    rw [firstFileLooks, List.mem_cons] at h
    rw [List.map_cons, List.mem_cons]
    refine h.imp_right fun h ↦ ih ?_
    split_ifs at h
    · exact absurd h List.not_mem_nil
    · exact h

/-- What is looked at in a cache are the places in it and the directory that is listed. -/
theorem mem_cacheLooks_cases {path : String} (h : path ∈ r.cacheLooks fs caches) :
    path ∈ (caches.flatMap (r.entryDirectories fs)).map r.fileIn
      ∨ r.keyToken = "" ∧ ∃ cache ∈ caches, path = (r.cacheDirectory cache).text := by
  induction caches with
  | nil => exact absurd h List.not_mem_nil
  | cons cache rest ih =>
    rw [List.flatMap_cons, List.map_append, List.mem_append]
    rcases List.mem_append.mp h with hentry | h
    · unfold entryLooks at hentry
      split_ifs at hentry with hempty
      · exact .inr ⟨String.isEmpty_iff.mp hempty, cache, List.mem_cons_self,
          List.mem_singleton.mp hentry⟩
      · exact absurd hentry List.not_mem_nil
    · cases hplaces : r.cachePaths fs cache with
      | error failure =>
        rw [hplaces] at h
        exact absurd h List.not_mem_nil
      | ok places =>
        rw [hplaces] at h
        rcases List.mem_append.mp h with hfile | h
        · rw [← map_text_of_cachePaths hplaces]
          exact .inl (.inl (mem_of_mem_firstFileLooks hfile))
        · have hrest : path ∈ r.cacheLooks fs rest := by
            revert h
            cases firstFile fs places with
            | error failure => exact fun h ↦ absurd h List.not_mem_nil
            | ok found =>
              cases found with
              | some other => exact fun h ↦ absurd h List.not_mem_nil
              | none => exact id
          rcases ih hrest with hplace | ⟨hempty, listed, hlisted, rfl⟩
          · exact .inl (.inr hplace)
          · exact .inr ⟨hempty, listed, List.mem_cons_of_mem cache hlisted, rfl⟩

theorem mem_looks_cases {path : String}
    (h : path ∈ r.looks fs referencing runtimeDirectory caches) :
    path ∈ r.candidates fs referencing runtimeDirectory caches
      ∨ r.keyToken = "" ∧ ∃ cache ∈ caches, path = (r.cacheDirectory cache).text := by
  rw [candidates, List.map_append, List.mem_append, ← map_text_nearbyPaths]
  rcases List.mem_append.mp h with hnear | h
  · exact .inl (.inl (mem_of_mem_firstFileLooks hnear))
  · have hcached : path ∈ r.cacheLooks fs caches := by
      revert h
      cases firstFile fs (r.nearbyPaths referencing runtimeDirectory) with
      | error failure => exact fun h ↦ absurd h List.not_mem_nil
      | ok found =>
        cases found with
        | some other => exact fun h ↦ absurd h List.not_mem_nil
        | none => exact id
    exact (mem_cacheLooks_cases hcached).imp_left .inr

/-- Where no look is refused, locating a dependency comes to the first of its places that holds a
file. -/
theorem outcome_locate_of_looks
    (h : ∀ path ∈ r.looks fs referencing runtimeDirectory caches, fs.refusal? path = none) :
    (r.locate fs referencing runtimeDirectory caches).outcome
      = .ok ((r.candidates fs referencing runtimeDirectory caches).find? fs.holdsFile) := by
  obtain ⟨answer, hanswer⟩ :=
    (looksAt_locate referencing runtimeDirectory caches).exists_ok_iff.mpr h
  rw [hanswer, eq_find?_of_locate hanswer]

theorem outcome_locate_of_candidates
    (hplaces : ∀ path ∈ r.candidates fs referencing runtimeDirectory caches,
      fs.refusal? path = none)
    (hcaches : ∀ cache ∈ caches, fs.refusal? (r.cacheDirectory cache).text = none) :
    (r.locate fs referencing runtimeDirectory caches).outcome
      = .ok ((r.candidates fs referencing runtimeDirectory caches).find? fs.holdsFile) := by
  refine outcome_locate_of_looks fun path hpath ↦ ?_
  rcases mem_looks_cases hpath with hplace | ⟨-, cache, hcache, rfl⟩
  · exact hplaces path hplace
  · exact hcaches cache hcache

/-- **Locating a dependency** comes to the first of its places that holds a file, and to nothing
just when none of them does, as long as the file system refuses no look. Every look is at one of
the places or, when the entries of a cache have to be listed, at the directory they are in. -/
theorem locate_eq_ok_iff (fs : FileSystem) (r : AssemblyReference) (referencing : String)
    (runtimeDirectory : Option String) (caches : List String) :
    (∀ answer, (r.locate fs referencing runtimeDirectory caches).outcome = .ok answer
        ↔ (∀ path ∈ r.looks fs referencing runtimeDirectory caches, fs.refusal? path = none)
          ∧ answer = (r.candidates fs referencing runtimeDirectory caches).find? fs.holdsFile)
      ∧ ((r.locate fs referencing runtimeDirectory caches).outcome = .ok none
        ↔ (∀ path ∈ r.looks fs referencing runtimeDirectory caches, fs.refusal? path = none)
          ∧ ∀ path ∈ r.candidates fs referencing runtimeDirectory caches,
            fs.holdsFile path = false)
      ∧ ∀ path ∈ r.looks fs referencing runtimeDirectory caches,
        path ∈ r.candidates fs referencing runtimeDirectory caches
          ∨ r.keyToken = "" ∧ ∃ cache ∈ caches, path = (r.cacheDirectory cache).text := by
  have hlooks : fs.LooksAt (r.looks fs referencing runtimeDirectory caches)
      (r.locate fs referencing runtimeDirectory caches).outcome := looksAt_locate _ _ _
  have hreturns := hlooks.exists_ok_iff
  have hanswer : ∀ answer, (r.locate fs referencing runtimeDirectory caches).outcome = .ok answer
      ↔ (∀ path ∈ r.looks fs referencing runtimeDirectory caches, fs.refusal? path = none)
        ∧ answer = (r.candidates fs referencing runtimeDirectory caches).find? fs.holdsFile := by
    intro answer
    constructor
    · intro h
      exact ⟨hreturns.mp ⟨answer, h⟩, eq_find?_of_locate h⟩
    · intro h
      rw [h.2]
      exact outcome_locate_of_looks h.1
  refine ⟨hanswer, ?_, fun path ↦ mem_looks_cases⟩
  rw [hanswer, eq_comm, List.find?_eq_none]
  simp only [Bool.not_eq_true]

/-! ### Instances -/

/-- A file system with two runtimes beside each other, a cache that holds one version of an assembly
for two cultures, one that may not be listed and one that may not even be entered. -/
def assemblyStore : FileSystem where
  root := .directory [
    ("mono", .directory [
      ("2.0", .directory [("mscorlib.dll", .file .empty false)] false),
      ("4.5", .directory [("mscorlib.dll", .file .empty false)] false)] false),
    ("gac", .directory [("A", .directory [
      ("1.0.0.0_fr_5c", .directory [("A.dll", .file .empty false)] false),
      ("1.0.0.0__5c", .directory [("A.dll", .file .empty false)] false)] false)] false),
    ("closed", .directory [("A", .directory [
      ("1.0.0.0__5c", .directory [("A.dll", .file .empty false)] false)] true)] false),
    ("sealed", .directory [] true)] false
  currentDirectory := "/"

/-- A reference to a French assembly that has no key token. -/
def frenchReference : AssemblyReference where
  name := "A"
  version := { major := 1 }
  culture := "fr"

/-- One cache is missing, one is a file, one may not be listed, and one has entries. -/
def assorted : List String := ["/none", "/mono/4.5/mscorlib.dll", "/closed", "/gac"]

theorem entries_of_filter_listedNames {cache : String} {names : List String}
    (hempty : r.keyToken.isEmpty = true)
    (h : ((fs.listedNames (r.cacheDirectory cache).text).filter fun name ↦
      (r.version.text ++ "_").toList.isPrefixOf name.toList) = names) :
    r.entries fs cache = sortedNames names := by
  rw [entries, if_pos hempty, h]

/-- The entries of the version are sorted. -/
theorem entries_gac :
    frenchReference.entries assemblyStore "/gac" = ["1.0.0.0__5c", "1.0.0.0_fr_5c"] := by
  have hfilter : frenchReference.entries assemblyStore "/gac"
      = sortedNames ["1.0.0.0_fr_5c", "1.0.0.0__5c"] :=
    entries_of_filter_listedNames (by decide) (by decide +kernel)
  rw [hfilter]
  simp [sortedNames, List.mergeSort, List.MergeSort.Internal.splitInTwo]

/-- Caches that are missing, a file or closed have no entries. -/
theorem entries_eq_nil :
    ∀ cache ∈ ["/none", "/mono/4.5/mscorlib.dll", "/closed", "/sealed"],
      frenchReference.entries assemblyStore cache = [] := by
  intro cache hcache
  rw [← sortedNames_nil]
  refine entries_of_filter_listedNames (by decide) ?_
  revert cache
  decide +kernel

/-- Behind caches without entries, the last cache has all places besides the first. -/
theorem candidates_append_gac {front : List String}
    (h : ∀ cache ∈ front, frenchReference.entries assemblyStore cache = []) :
    frenchReference.candidates assemblyStore "/lib/B.dll" none (front ++ ["/gac"])
      = ["/lib/A.dll", "/gac/A/1.0.0.0__5c/A.dll", "/gac/A/1.0.0.0_fr_5c/A.dll"] := by
  have hfront : front.flatMap (frenchReference.entryDirectories assemblyStore) = [] := by
    refine List.flatMap_eq_nil_iff.mpr fun cache hcache ↦ ?_
    rw [entryDirectories, h cache hcache, List.map_nil]
  rw [candidates, List.flatMap_append, hfront, List.nil_append, List.flatMap_singleton,
    entryDirectories, entries_gac]
  decide +kernel

theorem candidates_assorted :
    frenchReference.candidates assemblyStore "/lib/B.dll" none assorted
      = ["/lib/A.dll", "/gac/A/1.0.0.0__5c/A.dll", "/gac/A/1.0.0.0_fr_5c/A.dll"] := by
  have hnone : ∀ cache ∈ ["/none", "/mono/4.5/mscorlib.dll", "/closed"],
      frenchReference.entries assemblyStore cache = [] :=
    fun cache hcache ↦ entries_eq_nil cache (List.mem_append_left ["/sealed"] hcache)
  exact candidates_append_gac hnone

theorem refusal?_candidates_assorted :
    ∀ path ∈ frenchReference.candidates assemblyStore "/lib/B.dll" none assorted,
      assemblyStore.refusal? path = none := by
  rw [candidates_assorted]
  decide +kernel

theorem refusal?_cacheDirectory_assorted :
    ∀ cache ∈ assorted,
      assemblyStore.refusal? (frenchReference.cacheDirectory cache).text = none := by
  decide +kernel

/-- The first place with a file is the neutral entry of the last cache. -/
theorem locate_eq_ok_iff_assorted :
    (frenchReference.locate assemblyStore "/lib/B.dll" none assorted).outcome
      = .ok (some "/gac/A/1.0.0.0__5c/A.dll") := by
  obtain ⟨hanswer, -, hlooks⟩ :=
    locate_eq_ok_iff assemblyStore frenchReference "/lib/B.dll" none assorted
  refine (hanswer _).mpr ⟨fun path hpath ↦ ?_, ?_⟩
  · rcases hlooks path hpath with hplace | ⟨-, cache, hcache, rfl⟩
    · exact refusal?_candidates_assorted path hplace
    · exact refusal?_cacheDirectory_assorted cache hcache
  · rw [candidates_assorted]
    decide +kernel

theorem candidates_sealed :
    frenchReference.candidates assemblyStore "/lib/B.dll" none ["/sealed", "/gac"]
      = ["/lib/A.dll", "/gac/A/1.0.0.0__5c/A.dll", "/gac/A/1.0.0.0_fr_5c/A.dll"] := by
  have hnone : ∀ cache ∈ ["/sealed"], frenchReference.entries assemblyStore cache = [] :=
    fun cache hcache ↦ entries_eq_nil cache
      (List.mem_append_right ["/none", "/mono/4.5/mscorlib.dll", "/closed"] hcache)
  exact candidates_append_gac hnone

/-- A cache that may not be entered ends the search, although every place may be looked at and the
next cache has the file. -/
theorem locate_sealedCache :
    (∀ path ∈ frenchReference.candidates assemblyStore "/lib/B.dll" none ["/sealed", "/gac"],
        assemblyStore.refusal? path = none)
      ∧ (frenchReference.candidates assemblyStore "/lib/B.dll" none ["/sealed", "/gac"]).find?
        assemblyStore.holdsFile = some "/gac/A/1.0.0.0__5c/A.dll"
      ∧ (frenchReference.locate assemblyStore "/lib/B.dll" none ["/sealed", "/gac"]).outcome
        = .error (.file .denied "/sealed/A") := by
  refine ⟨?_, ?_, by decide +kernel⟩
  · rw [candidates_sealed]
    decide +kernel
  · rw [candidates_sealed]
    decide +kernel

end AssemblyReference

end FSharpFlags
