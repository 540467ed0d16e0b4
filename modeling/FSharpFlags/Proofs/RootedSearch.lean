import FSharpFlags.Proofs.CurrentDirectory
import FSharpFlags.Proofs.Refusal

/-!
# Searches at rooted places

A core assembly is searched for in directories that the environment gives and in the directory of
the other core assembly. While all of these are rooted, what a search comes to does not depend on
the current directory, and it is about rooted paths only: it neither answers with any other path
nor is refused at one.

When the other core assembly is known by a bare name, the first place of a search is a bare name
as well, and that place is in the current directory. The search then comes to the same from two
directories exactly when both say the same of this one place, since nothing that follows it can be
mistaken for it.
-/

namespace FSharpFlags

open FileSystem

variable {fs : FileSystem} {path : String} {d d' : String}

/-! ## Bare names -/

/-- The current directory as a path. -/
def Path.here : Path := ⟨.relative, []⟩

/-- Whether a path text has no separator. -/
def IsBare (path : String) : Prop := '/' ∉ path.toList

theorem IsBare.not_isRooted (h : IsBare path) : ¬isRooted path = true := by
  rw [isRooted_iff]
  exact fun hhead ↦ h (List.mem_of_head? hhead)

/-- Read as a path, a bare name lies in the current directory. -/
theorem IsBare.parent_parse (h : IsBare path) : (Path.parse path).parent = .here := by
  have hanchor : (Path.parse path).anchor = .relative := by
    have hrelative := h.not_isRooted
    rwa [← Path.isAbsolute_parse, Path.isAbsolute_iff, not_not] at hrelative
  have hparts : (Path.parse path).parts.dropLast.length = 0 := by
    have hlength : (Path.parse path).parts.length ≤ 1 := by
      rw [Path.parse, List.length_map, List.splitOn_eq_singleton h]
      exact List.length_filter_le _ _
    rw [List.length_dropLast]
    omega
  rw [Path.parent, hanchor, List.length_eq_zero_iff.mp hparts, Path.here]

/-- The library of a core assembly in the current directory is spelled as a bare name. -/
theorem text_child_here {name : String} (h : name ∈ coreAssemblies) :
    (Path.here.child (name ++ ".dll")).text = name ++ ".dll" := by
  have htable : ∀ name ∈ coreAssemblies,
      (Path.here.child (name ++ ".dll")).text = name ++ ".dll" := by
    decide
  exact htable name h

theorem isBare_append_dll {name : String} (h : name ∈ coreAssemblies) :
    IsBare (name ++ ".dll") := by
  have htable : ∀ name ∈ coreAssemblies, '/' ∉ (name ++ ".dll").toList := by decide
  exact htable name h

/-! ## Default directories -/

/-- Whether the places where default references lie are rooted. -/
structure CompilerEnvironment.IsRooted (env : CompilerEnvironment) : Prop where
  /-- The directory of the running framework is. -/
  runtimeDirectory : ∀ directory, given env.runtimeDirectory = some directory →
    isRooted directory = true
  /-- The roots of the core assemblies are. -/
  referenceRoots : ∀ root ∈ env.referenceRoots, isRooted root = true
  /-- The global caches are. -/
  caches : ∀ cache ∈ env.caches, isRooted cache = true

theorem isAbsolute_parse_of_isRooted (h : isRooted path = true) :
    (Path.parse path).isAbsolute = true := by
  rw [Path.isAbsolute_parse, h]

theorem CompilerEnvironment.IsRooted.forall_defaultDirectories {env : CompilerEnvironment}
    (h : env.IsRooted) (language : Option LanguageVersion) (target : TargetFramework) :
    ∀ directory ∈ env.defaultDirectories language target, isRooted directory = true := by
  intro directory hdirectory
  rw [defaultDirectories, List.mem_append] at hdirectory
  rcases hdirectory with hrunning | hcore
  · exact h.runtimeDirectory directory (Option.mem_toList.mp hrunning)
  · obtain ⟨root, hroot, rfl⟩ := List.mem_map.mp hcore
    have habsolute := isAbsolute_parse_of_isRooted (h.referenceRoots root hroot)
    exact Path.isRooted_text_child
      (Path.isAbsolute_child (Path.isAbsolute_child habsolute _) _) _

theorem isRooted_assemblyIn {directory : String} (h : isRooted directory = true)
    (name : String) : isRooted (assemblyIn directory name) = true :=
  Path.isRooted_text_child (isAbsolute_parse_of_isRooted h) _

theorem findAssembly_cons (directory : String) (rest : List String) (name : String) :
    findAssembly fs (directory :: rest) name
      = if fs.reaches (assemblyIn directory name) then some (assemblyIn directory name)
        else findAssembly fs rest name := by
  rw [findAssembly, List.map_cons, List.find?_cons, findAssembly]
  cases fs.reaches (assemblyIn directory name) <;> rfl

theorem findAssembly_seenFrom {directories : List String}
    (h : ∀ directory ∈ directories, isRooted directory = true) (d name : String) :
    findAssembly (fs.seenFrom d) directories name = findAssembly fs directories name := by
  induction directories with
  | nil => rfl
  | cons directory rest ih =>
    rw [List.forall_mem_cons] at h
    rw [findAssembly_cons, findAssembly_cons, reaches_seenFrom (isRooted_assemblyIn h.1 name),
      ih h.2]

theorem isRooted_of_findAssembly {directories : List String} {name : String}
    (h : ∀ directory ∈ directories, isRooted directory = true)
    (hpath : findAssembly fs directories name = some path) : isRooted path = true := by
  obtain ⟨directory, hdirectory, rfl⟩ := List.mem_map.mp (List.mem_of_find?_eq_some hpath)
  exact isRooted_assemblyIn (h directory hdirectory) name

/-- **A search of directories that begins in the current one** finds the same from two of them
exactly when both or neither of them has the assembly. -/
theorem findAssembly_here_eq_iff {directories : List String} {name : String}
    (h : ∀ directory ∈ directories, isRooted directory = true) (hname : name ∈ coreAssemblies) :
    findAssembly (fs.seenFrom d) (Path.here.text :: directories) name
        = findAssembly (fs.seenFrom d') (Path.here.text :: directories) name
      ↔ (fs.seenFrom d).reaches (name ++ ".dll") = (fs.seenFrom d').reaches (name ++ ".dll") := by
  have hhere : assemblyIn Path.here.text name = name ++ ".dll" :=
    text_child_here hname
  -- What the other directories hold is rooted, so it is not the bare name.
  have hrest : findAssembly fs directories name ≠ some (name ++ ".dll") := fun hfound ↦
    (isBare_append_dll hname).not_isRooted (isRooted_of_findAssembly h hfound)
  rw [findAssembly_cons, findAssembly_cons, hhere, findAssembly_seenFrom h,
    findAssembly_seenFrom h]
  cases (fs.seenFrom d).reaches (name ++ ".dll") <;>
    cases (fs.seenFrom d').reaches (name ++ ".dll") <;> simp [hrest, hrest.symm]

/-! ## Dependencies -/

/-- Whether a search neither answers with a path nor is refused at it. -/
def Avoids (path : String) (x : Except Failure (Option String)) : Prop :=
  x ≠ .ok (some path) ∧ ∀ fault, x ≠ .error (.file fault path)

/-- What is refused at a rooted path is not refused at a bare name. -/
theorem IsBare.avoids_error {q : String} (h : IsBare path) (hq : isRooted q = true)
    (fault : FileFault) : Avoids path (.error (.file fault q)) := by
  constructor
  · intro hok
    cases hok
  · intro fault' herror
    cases herror
    exact h.not_isRooted hq

theorem IsBare.avoids_ok {q : String} (h : IsBare path) (hq : isRooted q = true) :
    Avoids path (.ok (some q)) := by
  constructor
  · intro hok
    cases hok
    exact h.not_isRooted hq
  · intro fault herror
    cases herror

/-- A search that goes on elsewhere avoids what both parts of it avoid. -/
theorem Avoids.orElse {x rest : Except Failure (Option String)} (hx : Avoids path x)
    (hrest : Avoids path rest) :
    Avoids path (do match ← x with | some q => return some q | none => rest) := by
  cases x with
  | error failure => exact hx
  | ok found =>
    cases found with
    | some q => exact hx
    | none => exact hrest

/-- Searches that go on alike after a first look come to the same exactly when the looks do. -/
theorem Avoids.bind_eq_iff {x : Except Failure (Option String)} (h : Avoids path x)
    {look look' : Except Failure Bool}
    (hlook : ∀ failure, look = .error failure → ∃ fault, failure = .file fault path)
    (hlook' : ∀ failure, look' = .error failure → ∃ fault, failure = .file fault path) :
    (look.bind fun found ↦ if found then .ok (some path) else x)
        = (look'.bind fun found ↦ if found then .ok (some path) else x)
      ↔ look = look' := by
  refine ⟨fun heq ↦ ?_, fun heq ↦ by rw [heq]⟩
  -- Looks that differ would make what follows one of them answer with the path or be refused at it.
  cases look with
  | error failure =>
    obtain ⟨fault, rfl⟩ := hlook failure rfl
    cases look' with
    | error failure' => exact congrArg _ (Except.error.inj heq)
    | ok found' =>
      cases found' with
      | true => cases heq
      | false => exact absurd heq.symm (h.2 fault)
  | ok found =>
    cases look' with
    | error failure' =>
      obtain ⟨fault, rfl⟩ := hlook' failure' rfl
      cases found with
      | true => cases heq
      | false => exact absurd heq (h.2 fault)
    | ok found' =>
      cases found <;> cases found'
      · rfl
      · exact absurd heq h.1
      · exact absurd heq.symm h.1
      · rfl

theorem FileSystem.LooksAt.exists_of_error {α : Type} {looks : List String} {x : Except Failure α}
    {failure : Failure} (h : fs.LooksAt looks x) (hx : x = .error failure) :
    ∃ path ∈ looks, ∃ fault, failure = .file fault path := by
  obtain ⟨path, hpath, hrefusal⟩ := List.exists_of_findSome?_eq_some ((h failure).mp hx)
  rcases denied_or_nameTooLong_of_refusal? hrefusal with rfl | rfl
  · exact ⟨path, hpath, .denied, rfl⟩
  · exact ⟨path, hpath, .nameTooLong, rfl⟩

theorem FileSystem.exists_of_examine_eq_error {sort : Node → Bool} {failure : Failure}
    (h : fs.examine sort path = .error failure) : ∃ fault, failure = .file fault path := by
  obtain ⟨_, hpath, hfault⟩ := (looksAt_examine sort path).exists_of_error h
  obtain rfl := List.mem_singleton.mp hpath
  exact hfault

namespace AssemblyReference

variable {r : AssemblyReference} {places : List Path} {caches : List String}

theorem firstFile_seenFrom (h : ∀ p ∈ places, p.isAbsolute = true) (d : String) :
    firstFile (fs.seenFrom d) places = firstFile fs places := by
  induction places with
  | nil => rfl
  | cons p rest ih =>
    rw [List.forall_mem_cons] at h
    rw [firstFile, firstFile, isFile, isFile, examine_seenFrom (Path.isRooted_text h.1), ih h.2]

theorem avoids_firstFile (hpath : IsBare path) (h : ∀ p ∈ places, p.isAbsolute = true) :
    Avoids path (firstFile fs places) := by
  induction places with
  | nil => simp [firstFile, Avoids]
  | cons p rest ih =>
    rw [List.forall_mem_cons] at h
    have hrooted := Path.isRooted_text h.1
    rw [firstFile]
    cases hfile : fs.isFile p.text with
    | error failure =>
      obtain ⟨fault, rfl⟩ := exists_of_examine_eq_error hfile
      exact hpath.avoids_error hrooted fault
    | ok found =>
      cases found with
      | true => exact hpath.avoids_ok hrooted
      | false => exact ih h.2

theorem cachePaths_seenFrom {cache : String} (h : isRooted cache = true) (d : String) :
    cachePaths (fs.seenFrom d) r cache = cachePaths fs r cache := by
  rw [cachePaths, cachePaths,
    namesIn_seenFrom (Path.isRooted_text_child (isAbsolute_parse_of_isRooted h) r.name)]

theorem isAbsolute_of_cachePaths {cache : String} (h : isRooted cache = true)
    (hplaces : cachePaths fs r cache = .ok places) : ∀ p ∈ places, p.isAbsolute = true := by
  have hbase : ((Path.parse cache).child r.name).isAbsolute = true :=
    Path.isAbsolute_child (isAbsolute_parse_of_isRooted h) _
  unfold cachePaths at hplaces
  split at hplaces
  · obtain ⟨entries, -, hplaces⟩ := bind_eq_ok_iff.mp hplaces
    obtain rfl := Except.ok.inj hplaces
    intro p hp
    obtain ⟨entry, -, rfl⟩ := List.mem_map.mp hp
    exact Path.isAbsolute_child ((Path.isAbsolute_entry entry).trans hbase) _
  · obtain rfl := Except.ok.inj hplaces
    intro p hp
    obtain rfl := List.mem_singleton.mp hp
    exact Path.isAbsolute_child (Path.isAbsolute_child hbase _) _

theorem firstCached_seenFrom (h : ∀ cache ∈ caches, isRooted cache = true) (d : String) :
    firstCached (fs.seenFrom d) r caches = firstCached fs r caches := by
  induction caches with
  | nil => rfl
  | cons cache rest ih =>
    rw [List.forall_mem_cons] at h
    rw [firstCached, firstCached, cachePaths_seenFrom h.1]
    cases hplaces : cachePaths fs r cache with
    | error failure => rfl
    | ok places =>
      have hfile : firstFile (fs.seenFrom d) places = firstFile fs places :=
        firstFile_seenFrom (isAbsolute_of_cachePaths h.1 hplaces) d
      simp only [Bind.bind, Except.bind, hfile, ih h.2]

theorem isRooted_of_mem_entryLooks {cache : String} (h : isRooted cache = true)
    (hpath : path ∈ r.entryLooks cache) : isRooted path = true := by
  unfold entryLooks at hpath
  split at hpath
  · obtain rfl := List.mem_singleton.mp hpath
    exact Path.isRooted_text_child (isAbsolute_parse_of_isRooted h) r.name
  · cases hpath

theorem avoids_firstCached (hpath : IsBare path) (h : ∀ cache ∈ caches, isRooted cache = true) :
    Avoids path (firstCached fs r caches) := by
  induction caches with
  | nil => simp [firstCached, Avoids]
  | cons cache rest ih =>
    rw [List.forall_mem_cons] at h
    rw [firstCached]
    cases hplaces : cachePaths fs r cache with
    | error failure =>
      obtain ⟨q, hq, fault, rfl⟩ := (looksAt_cachePaths cache).exists_of_error hplaces
      exact hpath.avoids_error (isRooted_of_mem_entryLooks h.1 hq) fault
    | ok places =>
      exact (avoids_firstFile hpath (isAbsolute_of_cachePaths h.1 hplaces)).orElse (ih h.2)

/-- The search for an assembly in the given places and then in the caches. -/
def search (fs : FileSystem) (r : AssemblyReference) (places : List Path) (caches : List String) :
    Except Failure (Option String) := do
  match ← firstFile fs places with
  | some path => return some path
  | none => r.firstCached fs caches

theorem outcome_locate (referencing : String) (runtimeDirectory : Option String) :
    (r.locate fs referencing runtimeDirectory caches).outcome
      = r.search fs (r.nearbyPaths referencing runtimeDirectory) caches := by
  rw [locate, search, Attempt.outcome_bind]
  refine congrArg _ (funext fun near ↦ ?_)
  cases near with
  | some path => rfl
  | none =>
    dsimp only
    rw [Attempt.outcome_bind]
    show (firstCached fs r caches).bind _ = _
    cases firstCached fs r caches with
    | error failure => rfl
    | ok cached => cases cached <;> rfl

theorem search_cons (p : Path) :
    r.search fs (p :: places) caches
      = (fs.isFile p.text).bind fun found ↦
        if found then .ok (some p.text) else r.search fs places caches := by
  rw [search, firstFile]
  cases fs.isFile p.text with
  | error failure => rfl
  | ok found => cases found <;> rfl

theorem search_seenFrom (hplaces : ∀ p ∈ places, p.isAbsolute = true)
    (hcaches : ∀ cache ∈ caches, isRooted cache = true) (d : String) :
    r.search (fs.seenFrom d) places caches = r.search fs places caches := by
  rw [search, search, firstFile_seenFrom hplaces, firstCached_seenFrom hcaches]

theorem avoids_search (hpath : IsBare path) (hplaces : ∀ p ∈ places, p.isAbsolute = true)
    (hcaches : ∀ cache ∈ caches, isRooted cache = true) :
    Avoids path (r.search fs places caches) :=
  (avoids_firstFile hpath hplaces).orElse (avoids_firstCached hpath hcaches)

/-- The places of a search are the directory of the referring assembly and rooted ones. -/
theorem exists_nearbyPaths (r : AssemblyReference) {runtimeDirectory : Option String}
    (h : ∀ directory, given runtimeDirectory = some directory → isRooted directory = true) :
    ∃ rest : List Path, (∀ p ∈ rest, p.isAbsolute = true) ∧ ∀ referencing,
      r.nearbyPaths referencing runtimeDirectory
        = (Path.parse referencing).parent.child r.fileName :: rest := by
  unfold nearbyPaths
  cases hgiven : given runtimeDirectory with
  | none => exact ⟨[], fun p hp ↦ absurd hp List.not_mem_nil, fun referencing ↦ rfl⟩
  | some directory =>
    have hrunning := isAbsolute_parse_of_isRooted (h directory hgiven)
    have hsiblings : ∀ p ∈ (siblingDirectories r.version.major).map fun sibling ↦
        ((Path.parse directory).parent.child sibling).child r.fileName, p.isAbsolute = true := by
      intro p hp
      obtain ⟨sibling, -, rfl⟩ := List.mem_map.mp hp
      exact Path.isAbsolute_child
        (Path.isAbsolute_child (Path.isAbsolute_parent.trans hrunning) sibling) _
    exact ⟨_, List.forall_mem_cons.mpr ⟨Path.isAbsolute_child hrunning _, hsiblings⟩,
      fun referencing ↦ rfl⟩

/-- A dependency of an assembly with a rooted path is located in the same place from everywhere. -/
theorem outcome_locate_seenFrom {referencing : String} {runtimeDirectory : Option String}
    (hreferencing : isRooted referencing = true)
    (hruntime : ∀ directory, given runtimeDirectory = some directory → isRooted directory = true)
    (hcaches : ∀ cache ∈ caches, isRooted cache = true) (d : String) :
    (r.locate (fs.seenFrom d) referencing runtimeDirectory caches).outcome
      = (r.locate fs referencing runtimeDirectory caches).outcome := by
  obtain ⟨rest, hrest, hnearby⟩ := r.exists_nearbyPaths hruntime
  have hbeside : ((Path.parse referencing).parent.child r.fileName).isAbsolute = true :=
    Path.isAbsolute_child
      (Path.isAbsolute_parent.trans (isAbsolute_parse_of_isRooted hreferencing)) _
  rw [outcome_locate, outcome_locate, hnearby,
    search_seenFrom (List.forall_mem_cons.mpr ⟨hbeside, hrest⟩) hcaches]

/-- **A dependency of an assembly known by a bare name** is located alike from two directories
exactly when the look for it in them comes to the same. -/
theorem outcome_locate_bare_eq_iff {referencing : String} {runtimeDirectory : Option String}
    (hreferencing : IsBare referencing) (hname : r.name ∈ coreAssemblies)
    (hruntime : ∀ directory, given runtimeDirectory = some directory → isRooted directory = true)
    (hcaches : ∀ cache ∈ caches, isRooted cache = true) :
    (r.locate (fs.seenFrom d) referencing runtimeDirectory caches).outcome
        = (r.locate (fs.seenFrom d') referencing runtimeDirectory caches).outcome
      ↔ (fs.seenFrom d).isFile r.fileName = (fs.seenFrom d').isFile r.fileName := by
  obtain ⟨rest, hrest, hnearby⟩ := r.exists_nearbyPaths hruntime
  have hhere : (Path.here.child r.fileName).text = r.fileName := text_child_here hname
  have havoids : Avoids r.fileName (r.search fs rest caches) :=
    avoids_search (isBare_append_dll hname) hrest hcaches
  rw [outcome_locate, outcome_locate, hnearby, hreferencing.parent_parse, search_cons, search_cons,
    hhere, search_seenFrom hrest hcaches, search_seenFrom hrest hcaches]
  exact havoids.bind_eq_iff (fun failure ↦ exists_of_examine_eq_error)
    fun failure ↦ exists_of_examine_eq_error

end AssemblyReference

/-! ## Lookups -/

namespace CoreStrategy

variable {inputs inputs' : CoreInputs} {name : String}

/-- In the default directories the same is found from everywhere. -/
theorem outcome_run_defaultDirectories (henv : inputs.env.IsRooted) (d : String) :
    (CoreStrategy.defaultDirectories.run (fs.seenFrom d) inputs name).outcome
      = (CoreStrategy.defaultDirectories.run fs inputs name).outcome := by
  rw [run, run, outcome_findDefaultReference, outcome_findDefaultReference, Option.toList_none,
    List.nil_append, findAssembly_seenFrom (henv.forall_defaultDirectories _ _)]

theorem outcome_run_besideBaseRuntime {base : String} (hbase : inputs.baseRuntimePath = some base)
    (hgiven : base.isEmpty = false) :
    (CoreStrategy.besideBaseRuntime.run fs inputs name).outcome
      = .ok (findAssembly fs ((Path.parse base).parent.text
          :: inputs.env.defaultDirectories inputs.language inputs.target) name) := by
  rw [run, outcome_findDefaultReference, CoreInputs.besideBaseRuntime, hbase, given_some hgiven]
  rfl

/-- **Beside the base runtime** the same is found from two directories, unless the base runtime is
known by a bare name and only one of them has the assembly. -/
theorem outcome_run_besideBaseRuntime_eq_iff {base : String} (henv : inputs.env.IsRooted)
    (hname : name ∈ coreAssemblies) (hbase : inputs.baseRuntimePath = some base)
    (hgiven : base.isEmpty = false) (hpath : isRooted base = true ∨ IsBare base) :
    (CoreStrategy.besideBaseRuntime.run (fs.seenFrom d) inputs name).outcome
        = (CoreStrategy.besideBaseRuntime.run (fs.seenFrom d') inputs name).outcome
      ↔ (IsBare base → (fs.seenFrom d).reaches (name ++ ".dll")
          = (fs.seenFrom d').reaches (name ++ ".dll")) := by
  have hdefault := henv.forall_defaultDirectories inputs.language inputs.target
  rw [outcome_run_besideBaseRuntime hbase hgiven, outcome_run_besideBaseRuntime hbase hgiven,
    Except.ok.injEq]
  rcases hpath with hrooted | hbare
  · have hbeside : isRooted (Path.parse base).parent.text = true :=
      Path.isRooted_text (Path.isAbsolute_parent.trans (isAbsolute_parse_of_isRooted hrooted))
    have hall : ∀ directory ∈ (Path.parse base).parent.text
        :: inputs.env.defaultDirectories inputs.language inputs.target,
        isRooted directory = true := List.forall_mem_cons.mpr ⟨hbeside, hdefault⟩
    rw [findAssembly_seenFrom hall, findAssembly_seenFrom hall]
    exact iff_of_true rfl fun hbare ↦ absurd hrooted hbare.not_isRooted
  · rw [hbare.parent_parse, findAssembly_here_eq_iff hdefault hname, forall_prop_of_true hbare]

end CoreStrategy

namespace CoreInputs

variable {inputs inputs' : CoreInputs} {name core : String}

theorem outcome_locateDependency (name core : String) :
    (inputs.locateDependency fs name core).outcome
      = match inputs.inspector.dependency? core name with
        | some row => (row.locate fs core inputs.env.runtimeDirectory inputs.env.caches).outcome
        | none => .ok none := by
  have hasked : (inputs.inspector.askReferences core).outcome
      = .ok (inputs.inspector.references core) := rfl
  rw [locateDependency, Attempt.bind_of_ok hasked, Inspector.dependency?]
  cases inputs.inspector.references core with
  | ok rows =>
    dsimp only [Reading.value?, Option.bind_some]
    cases rows.find? (·.name = name) <;> rfl
  | inaccessible detail => rfl
  | unreadable detail => rfl

/-- **As a dependency of the language core** the same is found from two directories, unless the
language core is known by a bare name, refers to the assembly, and the look for it in the two comes
to different things. -/
theorem outcome_locateDependency_eq_iff (henv : inputs.env.IsRooted)
    (hsame : inputs'.env = inputs.env)
    (hagrees : inputs.inspector.AgreesAt inputs'.inspector core) (hname : name ∈ coreAssemblies)
    (hpath : isRooted core = true ∨ IsBare core) :
    (inputs.locateDependency (fs.seenFrom d) name core).outcome
        = (inputs'.locateDependency (fs.seenFrom d') name core).outcome
      ↔ (IsBare core → (inputs.inspector.dependency? core name).isSome = true →
          (fs.seenFrom d).isFile (name ++ ".dll") = (fs.seenFrom d').isFile (name ++ ".dll")) := by
  rw [outcome_locateDependency, outcome_locateDependency, hsame, ← hagrees.dependency]
  cases hrow : inputs.inspector.dependency? core name with
  | none => simp
  | some row =>
    obtain rfl : row.name = name := Inspector.name_of_dependency? hrow
    rw [forall_prop_of_true (by rfl : (some row).isSome = true)]
    rcases hpath with hrooted | hbare
    · dsimp only
      rw [row.outcome_locate_seenFrom hrooted henv.runtimeDirectory henv.caches,
        row.outcome_locate_seenFrom hrooted henv.runtimeDirectory henv.caches]
      exact iff_of_true rfl fun hbare ↦ absurd hrooted hbare.not_isRooted
    · rw [forall_prop_of_true hbare]
      exact row.outcome_locate_bare_eq_iff hbare hname henv.runtimeDirectory henv.caches

end CoreInputs

/-! ## Reconciling a set -/

theorem map_eq_map_iff {α β : Type} {f : α → β} (hf : Function.Injective f)
    {x y : Except Failure α} : x.map f = y.map f ↔ x = y := by
  cases x <;> cases y <;> simp [Except.map, hf.eq_iff]

namespace Reconciliation

variable {inputs inputs' : CoreInputs} {fs' : FileSystem}

theorem outcome_addLookup (r : Reconciliation) (lookup : CoreLookup) :
    (r.addLookup fs inputs lookup).outcome
      = (lookup.find fs inputs).outcome.map (r.record lookup.name) := by
  rw [addLookup, Attempt.outcome_bind, ← CoreLookup.find]
  cases (lookup.find fs inputs).outcome with
  | error failure => rfl
  | ok found => cases found <;> rfl

/-- Lookups that come to the same are recorded alike. -/
theorem outcome_foldlM_congr {lookups : List CoreLookup} (r : Reconciliation)
    (h : ∀ lookup ∈ lookups, (lookup.find fs inputs).outcome = (lookup.find fs' inputs').outcome) :
    (lookups.foldlM (addLookup fs inputs) r).outcome
      = (lookups.foldlM (addLookup fs' inputs') r).outcome := by
  induction lookups generalizing r with
  | nil => rfl
  | cons lookup rest ih =>
    rw [List.forall_mem_cons] at h
    rw [List.foldlM_cons, List.foldlM_cons, Attempt.outcome_bind, Attempt.outcome_bind,
      outcome_addLookup, outcome_addLookup, h.1]
    exact congrArg _ (funext fun s ↦ ih s h.2)

theorem added_record_injective (r : Reconciliation) (name : String) :
    Function.Injective fun answer ↦ (r.record name answer).added := by
  intro a b h
  cases a <;> cases b <;> simp_all [record]

/-- What a single lookup adds tells what its strategy came to. -/
theorem map_added_foldlM_singleton_eq_iff (r : Reconciliation) (name : String)
    (strategy : CoreStrategy) :
    ([⟨name, [strategy]⟩].foldlM (addLookup fs inputs) r).outcome.map (·.added)
        = ([⟨name, [strategy]⟩].foldlM (addLookup fs' inputs') r).outcome.map (·.added)
      ↔ (strategy.run fs inputs name).outcome = (strategy.run fs' inputs' name).outcome := by
  have hadded : ∀ (fs : FileSystem) (inputs : CoreInputs),
      ([⟨name, [strategy]⟩].foldlM (addLookup fs inputs) r).outcome.map (·.added)
        = (strategy.run fs inputs name).outcome.map fun answer ↦ (r.record name answer).added := by
    intro fs inputs
    rw [List.foldlM_cons, ← firstResult_singleton, Attempt.outcome_bind, outcome_addLookup,
      CoreLookup.find]
    cases (firstResult fs inputs name [strategy]).outcome <;> rfl
  rw [hadded, hadded, map_eq_map_iff (r.added_record_injective name)]

end Reconciliation

namespace ReferenceSet

variable {set : ReferenceSet} {env : CompilerEnvironment} {language : Option LanguageVersion}
  {target : TargetFramework} {i i' : Inspector}

/-- Whether the language core is looked for in the current directory: it is missing, and the base
runtime is known by a bare name. -/
def SeeksLanguageCoreHere (set : ReferenceSet) : Prop :=
  set.find? languageCore = none ∧ ∃ base, set.find? baseRuntime = some base ∧ IsBare base

/-- Whether the base runtime is looked for in the current directory: it is missing, and the
language core is known by a bare name and refers to it. -/
def SeeksBaseRuntimeHere (set : ReferenceSet) (i : Inspector) : Prop :=
  set.find? baseRuntime = none ∧ ∃ core, set.find? languageCore = some core ∧ IsBare core
    ∧ (i.dependency? core baseRuntime).isSome = true

theorem isEmpty_eq_false_of_find? {name path : String} (hname : name ∈ coreAssemblies)
    (h : set.find? name = some path) : path.isEmpty = false := by
  have htable : ∀ name ∈ coreAssemblies, names name "" = false := by decide
  have hnames := List.find?_some h
  rw [← Bool.not_eq_true, String.isEmpty_iff]
  rintro rfl
  rw [htable name hname] at hnames
  cases hnames

theorem coreCase_eq (set : ReferenceSet) {core base : Option String}
    (hcore : set.find? languageCore = core) (hbase : set.find? baseRuntime = base) :
    set.coreCase = .classify core base := by
  rw [coreCase, hcore, hbase]

/-- When both are missing, the current directory has no say. -/
theorem outcome_reconcile_of_missingBoth (henv : env.IsRooted)
    (hcore : set.find? languageCore = none) (hbase : set.find? baseRuntime = none) :
    (set.reconcile (fs.seenFrom d) env language target i).outcome
      = (set.reconcile (fs.seenFrom d') env language target i').outcome := by
  have hstrategies : ∀ lookup ∈ CoreCase.missingBoth.lookups,
      lookup.strategies = [.defaultDirectories] := by
    simp [CoreCase.lookups]
  have hrun : ∀ (d : String) (i : Inspector) (name : String),
      (CoreStrategy.defaultDirectories.run (fs.seenFrom d)
          (set.coreInputs env language target i) name).outcome
        = (CoreStrategy.defaultDirectories.run fs
          (set.coreInputs env language target i) name).outcome :=
    fun d i name ↦ CoreStrategy.outcome_run_defaultDirectories henv d
  rw [reconcile, reconcile, set.coreCase_eq hcore hbase]
  refine Reconciliation.outcome_foldlM_congr _ fun lookup hlookup ↦ ?_
  rw [CoreLookup.find, CoreLookup.find, hstrategies lookup hlookup, firstResult_singleton,
    firstResult_singleton, hrun, hrun]
  rfl

/-- When the language core is missing, it may be looked for beside the base runtime. -/
theorem map_added_reconcile_of_missingLanguageCore_iff {base : String} (henv : env.IsRooted)
    (hcore : set.find? languageCore = none) (hbase : set.find? baseRuntime = some base)
    (hpath : isRooted base = true ∨ IsBare base) :
    (set.reconcile (fs.seenFrom d) env language target i).outcome.map (·.added)
        = (set.reconcile (fs.seenFrom d') env language target i').outcome.map (·.added)
      ↔ (IsBare base → (fs.seenFrom d).reaches (languageCore ++ ".dll")
          = (fs.seenFrom d').reaches (languageCore ++ ".dll")) := by
  have hmem : languageCore ∈ coreAssemblies := List.mem_cons_self
  have hgiven : base.isEmpty = false :=
    isEmpty_eq_false_of_find? (List.mem_cons_of_mem _ List.mem_cons_self) hbase
  rw [reconcile, reconcile, set.coreCase_eq hcore hbase]
  refine Iff.trans (Reconciliation.map_added_foldlM_singleton_eq_iff _ _ _) ?_
  have hrooted : (set.coreInputs env language target i).env.IsRooted := henv
  exact CoreStrategy.outcome_run_besideBaseRuntime_eq_iff hrooted hmem hbase hgiven hpath

/-- When the base runtime is missing, it may be looked for beside the language core. -/
theorem map_added_reconcile_of_missingBaseRuntime_iff {core : String} (henv : env.IsRooted)
    (hcore : set.find? languageCore = some core) (hbase : set.find? baseRuntime = none)
    (hpath : isRooted core = true ∨ IsBare core) (hagrees : i.AgreesAt i' core) :
    (set.reconcile (fs.seenFrom d) env language target i).outcome.map (·.added)
        = (set.reconcile (fs.seenFrom d') env language target i').outcome.map (·.added)
      ↔ (IsBare core → (i.dependency? core baseRuntime).isSome = true →
          (fs.seenFrom d).isFile (baseRuntime ++ ".dll")
            = (fs.seenFrom d').isFile (baseRuntime ++ ".dll")) := by
  have hmem : baseRuntime ∈ coreAssemblies := List.mem_cons_of_mem _ List.mem_cons_self
  have hrun : ∀ (fs : FileSystem) (i : Inspector),
      CoreStrategy.languageCoreDependency.run fs (set.coreInputs env language target i) baseRuntime
        = (set.coreInputs env language target i).locateDependency fs baseRuntime core := by
    intro fs i
    rw [CoreStrategy.run, show (set.coreInputs env language target i).languageCorePath = some core
      from hcore]
  rw [reconcile, reconcile, set.coreCase_eq hcore hbase]
  refine Iff.trans (Reconciliation.map_added_foldlM_singleton_eq_iff _ _ _) ?_
  rw [hrun, hrun]
  exact CoreInputs.outcome_locateDependency_eq_iff henv rfl hagrees hmem hpath

/-- **Reconciling a set** adds the same from two directories exactly when the two agree on what a
lookup begins with in the current directory. -/
theorem map_added_reconcile_eq_iff (henv : env.IsRooted)
    (hpaths : ∀ path ∈ set.paths, isRooted path = true ∨ IsBare path)
    (hagrees : ∀ path ∈ set.paths, i.AgreesAt i' path) :
    (set.reconcile (fs.seenFrom d) env language target i).outcome.map (·.added)
        = (set.reconcile (fs.seenFrom d') env language target i').outcome.map (·.added)
      ↔ (set.SeeksLanguageCoreHere → (fs.seenFrom d).reaches (languageCore ++ ".dll")
          = (fs.seenFrom d').reaches (languageCore ++ ".dll"))
        ∧ (set.SeeksBaseRuntimeHere i → (fs.seenFrom d).isFile (baseRuntime ++ ".dll")
          = (fs.seenFrom d').isFile (baseRuntime ++ ".dll")) := by
  cases hcore : set.find? languageCore with
  | none =>
    cases hbase : set.find? baseRuntime with
    | none =>
      refine iff_of_true (congrArg _ (outcome_reconcile_of_missingBoth henv hcore hbase)) ?_
      simp [SeeksLanguageCoreHere, SeeksBaseRuntimeHere, hcore, hbase]
    | some base =>
      have hpath := hpaths base (List.mem_of_find?_eq_some hbase)
      rw [map_added_reconcile_of_missingLanguageCore_iff henv hcore hbase hpath]
      simp [SeeksLanguageCoreHere, SeeksBaseRuntimeHere, hcore, hbase]
  | some core =>
    cases hbase : set.find? baseRuntime with
    | none =>
      have hmem := List.mem_of_find?_eq_some hcore
      rw [map_added_reconcile_of_missingBaseRuntime_iff henv hcore hbase (hpaths core hmem)
        (hagrees core hmem)]
      simp [SeeksLanguageCoreHere, SeeksBaseRuntimeHere, hcore, hbase]
    | some base =>
      rw [reconcile, reconcile, set.coreCase_eq hcore hbase]
      exact iff_of_true rfl (by simp [SeeksLanguageCoreHere, SeeksBaseRuntimeHere, hcore, hbase])

end ReferenceSet

end FSharpFlags
