import FSharpFlags.Metadata.Reader
import FSharpFlags.Proofs.DocumentReading
import FSharpFlags.Proofs.FlagAssembly
import FSharpFlags.Proofs.RootedSearch

/-!
# When the current directory matters

The references of a project are asked for from some directory. All that goes into them may be given
by rooted paths: the project file, its packages, the outputs of other projects, the assemblies of
the host, the facades, the places of the environment. One kind of path is still not rooted then. A
hint that leads nowhere leaves the bare name of a file behind, which is meant for the compiler to
look up; but what comes later takes every collected reference for a path. A bare name is asked
whether it is portable, and when it stands for a core assembly, the other one is looked for in its
directory, which is the current one.

Apart from what the files with bare names say, this search is all that the current directory
decides.
-/

namespace FSharpFlags

open FileSystem

variable {fs : FileSystem} {path : String} {d d' : String}

/-! ## Collected references -/

namespace Project

variable {p : Project} {selection : Selection} {wanted : ReferenceKind → Bool}
  {paths declared : List String}

/-- Whether the paths that a project is given are rooted. -/
structure HasRootedPaths (p : Project) (selection : Selection) : Prop where
  /-- The path of the project file is. -/
  fileName : isRooted p.fileName = true
  /-- The locations of the assemblies of packages are. -/
  packages : ∀ r ∈ p.references, ∀ package ∈ r.package, ∀ a ∈ package.assemblies,
    isRooted a.location = true
  /-- The outputs of the projects referred to are. -/
  outputs : ∀ n ∈ p.neighbours selection, isRooted (n.outputFile (n.selector selection)) = true
  /-- The assemblies that the host resolves are. -/
  hostAssemblies : ∀ path ∈ p.referencedAssemblies (p.selector selection), isRooted path = true

theorem collect_eq_ok_of_mapM {located : List (List String)}
    (h : p.references.mapM (p.pathsOf fs selection) = .ok located) :
    p.collect fs selection = .ok located.flatten := by
  rw [collect, List.filter_true, h]
  rfl

theorem exists_of_mem_collect (h : p.collect fs selection wanted = .ok paths)
    (hpath : path ∈ paths) :
    ∃ r ∈ p.references, ∃ located, p.pathsOf fs selection r = .ok located ∧ path ∈ located := by
  obtain ⟨parts, hparts, h⟩ := bind_eq_ok_iff.mp h
  obtain rfl := Except.ok.inj h
  obtain ⟨r, hr, hlocated⟩ := (mem_flatten_iff_of_mapM hparts).mp hpath
  exact ⟨r, List.mem_of_mem_filter hr, hlocated⟩

/-- What is collected of some kinds is collected of all. -/
theorem mem_of_mem_collect (hall : p.collect fs selection = .ok declared)
    (h : p.collect fs selection wanted = .ok paths) (hpath : path ∈ paths) : path ∈ declared := by
  obtain ⟨r, hr, hlocated⟩ := exists_of_mem_collect h hpath
  obtain ⟨parts, hparts, rfl⟩ := exists_of_collect hall
  exact (mem_flatten_iff_of_mapM hparts).mpr ⟨r, hr, hlocated⟩

theorem isRooted_or_isBare_of_hintedPaths (h : isRooted p.fileName = true)
    {r : DeclaredReference} (hpaths : p.hintedPaths fs r = .ok paths) (hpath : path ∈ paths) :
    isRooted path = true ∨ IsBare path := by
  unfold hintedPaths at hpaths
  cases hhint : given r.hintPath with
  | none =>
    rw [hhint] at hpaths
    obtain rfl := Except.ok.inj hpaths
    cases hpath
  | some hint =>
    rw [hhint] at hpaths
    obtain ⟨found, -, hpaths⟩ := bind_eq_ok_iff.mp hpaths
    cases found with
    | true =>
      obtain rfl := Except.ok.inj hpaths
      obtain rfl := List.mem_singleton.mp hpath
      exact .inl (isRooted_hintedPath h hint)
    | false =>
      obtain rfl := Except.ok.inj hpaths
      obtain rfl := List.mem_singleton.mp hpath
      exact .inr (not_mem_fileNameOf hint)

theorem isRooted_of_mem_packagePaths {package : Package} {identity : String}
    (h : ∀ a ∈ package.assemblies, isRooted a.location = true)
    (hpath : path ∈ packagePaths package identity) : isRooted path = true := by
  unfold packagePaths at hpath
  split at hpath
  · obtain ⟨a, ha, rfl⟩ := List.mem_map.mp hpath
    exact h a ha
  · split at hpath
    · next a hfound =>
      obtain rfl := List.mem_singleton.mp hpath
      exact h a (List.mem_of_find?_eq_some hfound)
    · cases hpath

theorem isRooted_of_mem_outputPaths {identity : String}
    (h : ∀ n ∈ p.neighbours selection, isRooted (n.outputFile (n.selector selection)) = true)
    (hpath : path ∈ p.outputPaths selection identity) : isRooted path = true := by
  unfold outputPaths at hpath
  split at hpath
  · next n hfound =>
    obtain rfl := List.mem_singleton.mp hpath
    exact h n (List.mem_of_find?_eq_some hfound)
  · cases hpath

/-- **A collected reference is rooted or a bare name.** -/
theorem isRooted_or_isBare_of_mem_collect (h : p.HasRootedPaths selection)
    (hpaths : p.collect fs selection wanted = .ok paths) (hpath : path ∈ paths) :
    isRooted path = true ∨ IsBare path := by
  obtain ⟨r, hr, located, hlocated, hpath⟩ := exists_of_mem_collect hpaths hpath
  unfold pathsOf at hlocated
  split at hlocated
  · exact isRooted_or_isBare_of_hintedPaths h.fileName hlocated hpath
  · exact isRooted_or_isBare_of_hintedPaths h.fileName hlocated hpath
  · next package _ hpackage =>
    obtain rfl := Except.ok.inj hlocated
    exact .inl (isRooted_of_mem_packagePaths (h.packages r hr package hpackage) hpath)
  · obtain rfl := Except.ok.inj hlocated
    exact .inl (isRooted_of_mem_outputPaths h.outputs hpath)
  · obtain rfl := Except.ok.inj hlocated
    cases hpath

/-- The reference options of a project that is not portable are what reconciling its candidates
adds, and then the candidates. -/
theorem outcome_referenceOptions {o : GenerationOptions} (hp : p.isPortable = false) :
    (p.referenceOptions fs selection o).outcome
      = (p.candidateSet fs selection o.inspector).outcome.bind fun set ↦
        ((set.reconcile fs o.env o.language (o.targetOf p) o.inspector).outcome.map
          (·.added)).map fun added ↦ (added ++ set.paths).map .reference := by
  rw [referenceOptions, referencePaths, if_neg (by simp [hp]), Attempt.outcome_bind,
    Attempt.outcome_bind, reconciled, Attempt.outcome_bind]
  cases (p.candidateSet fs selection o.inspector).outcome with
  | error failure => rfl
  | ok set =>
    dsimp only [Except.bind]
    rw [Attempt.outcome_bind]
    cases (set.reconcile fs o.env o.language (o.targetOf p) o.inspector).outcome <;> rfl

end Project

/-! ## Runtimes and inspectors -/

/-- Where the answers of a runtime come from. -/
inductive RuntimeSource where
  /-- They are the given ones, whatever the file system holds. -/
  | fixed (runtime : TargetRuntime)
  /-- They are read off the Mono installation beneath a root. -/
  | mono (root : Path)

namespace RuntimeSource

variable {source : RuntimeSource} {m : Moniker}

/-- The runtime over a file system. -/
def runtime (fs : FileSystem) : RuntimeSource → TargetRuntime
  | .fixed runtime => runtime
  | .mono root => MonoInstall.runtime fs root

/-- Whether the paths of the facades for a framework are rooted. -/
def HasRootedFacades (m : Moniker) : RuntimeSource → Prop
  | .fixed runtime => ∀ facades, runtime.facades m = .ok facades →
    ∀ path ∈ facades, isRooted path = true
  | .mono root => root.isAbsolute = true

theorem facades_seenFrom (h : source.HasRootedFacades m) (d : String) :
    (source.runtime (fs.seenFrom d)).facades m = (source.runtime fs).facades m := by
  cases source with
  | fixed runtime => rfl
  | mono root => exact MonoInstall.facades_seenFrom h d m

theorem isRooted_of_mem_facades (h : source.HasRootedFacades m) {facades : List String}
    (hfacades : (source.runtime fs).facades m = .ok facades) :
    ∀ path ∈ facades, isRooted path = true := by
  cases source with
  | fixed runtime => exact h facades hfacades
  | mono root => exact MonoInstall.isRooted_of_mem_facades h hfacades

end RuntimeSource

/-- Where the answers of an inspector come from. -/
inductive InspectorSource where
  /-- They are the given ones, whatever the file system holds. -/
  | fixed (inspector : Inspector)
  /-- They are read from the files, with a parser of images. -/
  | files (parser : ImageParser)

namespace InspectorSource

/-- The inspector over a file system. -/
def inspector (fs : FileSystem) : InspectorSource → Inspector
  | .fixed inspector => inspector
  | .files parser => .ofParser parser fs

theorem agreesAt (source : InspectorSource) (h : isRooted path = true) (d d' : String) :
    (source.inspector (fs.seenFrom d)).AgreesAt (source.inspector (fs.seenFrom d')) path := by
  cases source with
  | fixed inspector => exact ⟨rfl, fun _ ↦ rfl⟩
  | files parser => exact Inspector.agreesAt_ofParser h d d'

end InspectorSource

/-! ## Inquiries -/

/-- All that decides the references of a project, apart from the current directory. -/
structure Inquiry where
  /-- The file system. -/
  fs : FileSystem
  /-- The project, apart from its runtime. -/
  project : Project
  /-- The runtime of the project. -/
  runtime : RuntimeSource
  /-- The selection of a configuration. -/
  selection : Selection
  /-- The options, apart from the inspector. -/
  options : GenerationOptions
  /-- The inspector of the options. -/
  inspector : InspectorSource

namespace Inquiry

variable {q : Inquiry}

/-- The project over the runtime as it is seen from a directory. -/
def projectFrom (q : Inquiry) (d : String) : Project :=
  { q.project with runtime := q.runtime.runtime (q.fs.seenFrom d) }

/-- The inspector as it is seen from a directory. -/
def inspectorFrom (q : Inquiry) (d : String) : Inspector :=
  q.inspector.inspector (q.fs.seenFrom d)

/-- The options over the inspector as it is seen from a directory. -/
def optionsFrom (q : Inquiry) (d : String) : GenerationOptions :=
  { q.options with inspector := q.inspectorFrom d }

/-- The paths that are collected from a directory. -/
def declaredFrom (q : Inquiry) (d : String) : Except Failure (List String) :=
  (q.projectFrom d).collect (q.fs.seenFrom d) q.selection

/-- The candidates from a directory, before the core assemblies are seen to. -/
def candidatesFrom (q : Inquiry) (d : String) : Except Failure ReferenceSet :=
  ((q.projectFrom d).candidateSet (q.fs.seenFrom d) q.selection (q.inspectorFrom d)).outcome

/-- The reference options from a directory. -/
def referencesFrom (q : Inquiry) (d : String) : Except Failure (List CompilerOption) :=
  ((q.projectFrom d).referenceOptions (q.fs.seenFrom d) q.selection (q.optionsFrom d)).outcome

/-- Whether all paths that an inquiry is given are rooted. -/
structure HasRootedPaths (q : Inquiry) : Prop where
  /-- Those of the project are. -/
  project : q.project.HasRootedPaths q.selection
  /-- Those of the facades are. -/
  facades : q.runtime.HasRootedFacades q.project.framework
  /-- Those of the environment are. -/
  env : q.options.env.IsRooted

/-- Whether two directories answer alike what is asked about the bare names among the collected
references. -/
def AgreesOnBareNames (q : Inquiry) (d d' : String) : Prop :=
  ∀ declared, q.declaredFrom d = .ok declared → ∀ path ∈ declared, IsBare path →
    (q.inspectorFrom d).AgreesAt (q.inspectorFrom d') path

/-- Whether the lookups for core assemblies that begin in the current directory come to the same in
two directories. -/
def AgreesOnLookups (q : Inquiry) (d d' : String) : Prop :=
  ∀ set, q.candidatesFrom d = .ok set →
    (set.SeeksLanguageCoreHere → (q.fs.seenFrom d).reaches (languageCore ++ ".dll")
        = (q.fs.seenFrom d').reaches (languageCore ++ ".dll"))
      ∧ (set.SeeksBaseRuntimeHere (q.inspectorFrom d) →
        (q.fs.seenFrom d).isFile (baseRuntime ++ ".dll")
          = (q.fs.seenFrom d').isFile (baseRuntime ++ ".dll"))

theorem collect_projectFrom (h : q.HasRootedPaths) (d : String) (wanted : ReferenceKind → Bool) :
    (q.projectFrom d).collect (q.fs.seenFrom d) q.selection wanted
      = q.project.collect q.fs q.selection wanted := by
  show q.project.collect (q.fs.seenFrom d) q.selection wanted = _
  exact Project.collect_seenFrom h.project.fileName d wanted

theorem HasRootedPaths.projectFrom (h : q.HasRootedPaths) (d : String) :
    (q.projectFrom d).HasRootedPaths q.selection :=
  ⟨h.project.fileName, h.project.packages, h.project.outputs, h.project.hostAssemblies⟩

theorem agreesAt_of_mem_declared (h : q.HasRootedPaths) (hagrees : q.AgreesOnBareNames d d')
    {declared : List String} (hdeclared : q.declaredFrom d = .ok declared)
    (hpath : path ∈ declared) : (q.inspectorFrom d).AgreesAt (q.inspectorFrom d') path := by
  rcases Project.isRooted_or_isBare_of_mem_collect (h.projectFrom d) hdeclared hpath
    with hrooted | hbare
  · exact q.inspector.agreesAt hrooted d d'
  · exact hagrees declared hdeclared path hpath hbare

/-- Whether facades are needed does not depend on the current directory. -/
theorem outcome_needsFacades (h : q.HasRootedPaths) (hagrees : q.AgreesOnBareNames d d')
    {declared : List String} (hdeclared : q.declaredFrom d = .ok declared) :
    ((q.projectFrom d).needsFacades (q.fs.seenFrom d) q.selection (q.inspectorFrom d)).outcome
      = ((q.projectFrom d').needsFacades (q.fs.seenFrom d') q.selection
        (q.inspectorFrom d')).outcome := by
  have hneighbours : ∀ d, (q.projectFrom d).neighbours q.selection
      = q.project.neighbours q.selection := fun d ↦ rfl
  rw [Project.needsFacades, Project.needsFacades, hneighbours, hneighbours]
  split
  · rfl
  · rw [collect_projectFrom h, collect_projectFrom h]
    cases hpaths : q.project.collect q.fs q.selection (· = .assembly) with
    | error failure => rw [Attempt.bind_of_error rfl, Attempt.bind_of_error rfl]
    | ok paths =>
      have hcollected : (q.projectFrom d).collect (q.fs.seenFrom d) q.selection (· = .assembly)
          = .ok paths := by rw [collect_projectFrom h, hpaths]
      have hall : (q.projectFrom d).collect (q.fs.seenFrom d) q.selection = .ok declared :=
        hdeclared
      rw [Attempt.bind_of_ok rfl, Attempt.bind_of_ok rfl]
      exact Inspector.outcome_anyPortable_congr fun path hpath ↦
        agreesAt_of_mem_declared h hagrees hdeclared
          (Project.mem_of_mem_collect hall hcollected hpath)

theorem facades_projectFrom (h : q.HasRootedPaths) (d d' : String) :
    (q.projectFrom d).facades = (q.projectFrom d').facades := by
  have hruntime : (q.projectFrom d).runtime.facades (q.projectFrom d).framework
      = (q.projectFrom d').runtime.facades (q.projectFrom d').framework :=
    (RuntimeSource.facades_seenFrom h.facades d).trans
      (RuntimeSource.facades_seenFrom h.facades d').symm
  rw [Project.facades, Project.facades, hruntime]

/-- The facades that apply are the same from both directories. -/
theorem outcome_applicableFacades (h : q.HasRootedPaths) (hagrees : q.AgreesOnBareNames d d')
    {declared : List String} (hdeclared : q.declaredFrom d = .ok declared) :
    ((q.projectFrom d).applicableFacades (q.fs.seenFrom d) q.selection (q.inspectorFrom d)).outcome
      = ((q.projectFrom d').applicableFacades (q.fs.seenFrom d') q.selection
        (q.inspectorFrom d')).outcome := by
  have hportable : ∀ d, (q.projectFrom d).isPortable = q.project.isPortable := fun d ↦ rfl
  rw [Project.applicableFacades, Project.applicableFacades, hportable, hportable,
    facades_projectFrom h d d']
  split
  · rfl
  · rw [Attempt.outcome_bind, Attempt.outcome_bind, outcome_needsFacades h hagrees hdeclared]

/-- **The candidates are the same from both directories.** -/
theorem candidatesFrom_eq (h : q.HasRootedPaths) (hagrees : q.AgreesOnBareNames d d') :
    q.candidatesFrom d = q.candidatesFrom d' := by
  have hhost : ∀ d, (q.projectFrom d).hostAssemblies q.selection
      = q.project.hostAssemblies q.selection := fun d ↦ rfl
  have hpaths :
      ((q.projectFrom d).candidatePaths (q.fs.seenFrom d) q.selection (q.inspectorFrom d)).outcome
        = ((q.projectFrom d').candidatePaths (q.fs.seenFrom d') q.selection
          (q.inspectorFrom d')).outcome := by
    rw [Project.candidatePaths, Project.candidatePaths, collect_projectFrom h,
      collect_projectFrom h, hhost, hhost]
    cases hcollected : q.project.collect q.fs q.selection with
    | error failure => rw [Attempt.bind_of_error rfl, Attempt.bind_of_error rfl]
    | ok declared =>
      have hdeclared : q.declaredFrom d = .ok declared := by
        rw [declaredFrom, collect_projectFrom h, hcollected]
      simp only [Attempt.outcome_bind, outcome_applicableFacades h hagrees hdeclared]
  rw [candidatesFrom, candidatesFrom, Project.candidateSet, Project.candidateSet,
    Attempt.outcome_bind, Attempt.outcome_bind, hpaths]

theorem isRooted_of_mem_applicableFacades (h : q.HasRootedPaths) {facades : List String}
    (hfacades : ((q.projectFrom d).applicableFacades (q.fs.seenFrom d) q.selection
      (q.inspectorFrom d)).outcome = .ok facades) (hpath : path ∈ facades) :
    isRooted path = true := by
  unfold Project.applicableFacades at hfacades
  split at hfacades
  · obtain rfl := Except.ok.inj hfacades
    cases hpath
  · obtain ⟨needed, -, hfacades⟩ := Attempt.outcome_bind_eq_ok_iff.mp hfacades
    cases needed with
    | false =>
      obtain rfl := Except.ok.inj hfacades
      cases hpath
    | true =>
      obtain ⟨_, -, hfacades⟩ := Attempt.outcome_bind_eq_ok_iff.mp hfacades
      obtain ⟨all, hall, hfacades⟩ := Attempt.outcome_bind_eq_ok_iff.mp hfacades
      obtain rfl := Except.ok.inj hfacades
      exact RuntimeSource.isRooted_of_mem_facades h.facades hall path (List.mem_of_mem_filter hpath)

/-- What is not rooted among the candidates was collected. -/
theorem isRooted_or_mem_declared (h : q.HasRootedPaths) {set : ReferenceSet}
    (hset : q.candidatesFrom d = .ok set) (hpath : path ∈ set.paths) :
    isRooted path = true ∨ ∃ declared, q.declaredFrom d = .ok declared ∧ path ∈ declared := by
  obtain ⟨located, facades, hlocated, hfacades, rfl⟩ := Project.exists_of_candidateSet hset
  have hmem := List.mem_of_mem_filter (ReferenceSet.mem_of_mem_ofList hpath)
  rcases List.mem_append.mp hmem with hmem | hfacade
  · rcases List.mem_append.mp hmem with hdeclared | hhost
    · exact .inr ⟨located.flatten, Project.collect_eq_ok_of_mapM hlocated, hdeclared⟩
    · exact .inl (h.project.hostAssemblies path hhost)
  · exact .inl (isRooted_of_mem_applicableFacades h hfacades hfacade)

/-- **A candidate is rooted or a bare name**, and what is said of it is the same from both
directories. -/
theorem of_mem_candidates (h : q.HasRootedPaths) (hagrees : q.AgreesOnBareNames d d')
    {set : ReferenceSet} (hset : q.candidatesFrom d = .ok set) (hpath : path ∈ set.paths) :
    (isRooted path = true ∨ IsBare path)
      ∧ (q.inspectorFrom d).AgreesAt (q.inspectorFrom d') path := by
  rcases isRooted_or_mem_declared h hset hpath with hrooted | ⟨declared, hdeclared, hmem⟩
  · exact ⟨.inl hrooted, q.inspector.agreesAt hrooted d d'⟩
  · exact ⟨Project.isRooted_or_isBare_of_mem_collect (h.projectFrom d) hdeclared hmem,
      agreesAt_of_mem_declared h hagrees hdeclared hmem⟩

/-! ## The references -/

/-- The reference options are what reconciling the candidates adds, and then the candidates. -/
theorem referencesFrom_eq_bind (hp : q.project.isPortable = false) (d : String) :
    q.referencesFrom d = (q.candidatesFrom d).bind fun set ↦
      ((set.reconcile (q.fs.seenFrom d) q.options.env q.options.language
          (q.options.targetOf q.project) (q.inspectorFrom d)).outcome.map (·.added)).map
        fun added ↦ (added ++ set.paths).map .reference := by
  have hportable : (q.projectFrom d).isPortable = false := hp
  exact Project.outcome_referenceOptions hportable

/-- Two directories give the same references exactly when a lookup that begins in them finds the
same in both. -/
theorem referencesFrom_eq_iff (hp : q.project.isPortable = false) (h : q.HasRootedPaths)
    (hagrees : q.AgreesOnBareNames d d') :
    q.referencesFrom d = q.referencesFrom d' ↔ q.AgreesOnLookups d d' := by
  rw [AgreesOnLookups, referencesFrom_eq_bind hp, referencesFrom_eq_bind hp,
    ← candidatesFrom_eq h hagrees]
  cases hset : q.candidatesFrom d with
  | error failure => exact iff_of_true rfl fun set hset ↦ by cases hset
  | ok set =>
    have hinjective : Function.Injective fun added ↦
        (added ++ set.paths).map CompilerOption.reference := by
      intro a b hab
      have hpaths := congrArg (List.filterMap CompilerOption.reference?) hab
      rw [filterMap_reference?, filterMap_reference?] at hpaths
      exact List.append_cancel_right hpaths
    have hmem := fun path (hpath : path ∈ set.paths) ↦ of_mem_candidates h hagrees hset hpath
    refine Iff.trans (map_eq_map_iff hinjective) ?_
    rw [ReferenceSet.map_added_reconcile_eq_iff h.env (fun path hpath ↦ (hmem path hpath).1)
      fun path hpath ↦ (hmem path hpath).2]
    constructor
    · intro hlooks set' hset'
      obtain rfl := Except.ok.inj hset'
      exact hlooks
    · intro hlooks
      exact hlooks set rfl

/-- **The current directory does not matter** to a project whose hints lead to files. Where some
of them do not, and both directories answer alike what is asked about the bare names that are left,
it matters exactly when a core assembly is looked for in it and not the same is found in both. So
much holds of every project that is not portable, whatever the context and the options, provided
that all paths that go in are rooted. -/
theorem referencesFrom_independent (hp : q.project.isPortable = false) (h : q.HasRootedPaths)
    (d d' : String) :
    ((∀ declared, q.declaredFrom d = .ok declared → ∀ path ∈ declared, isRooted path = true) →
        q.referencesFrom d = q.referencesFrom d')
      ∧ (q.AgreesOnBareNames d d' →
        (q.referencesFrom d = q.referencesFrom d' ↔ q.AgreesOnLookups d d')) := by
  refine ⟨fun hhints ↦ ?_, referencesFrom_eq_iff hp h⟩
  have hbare : ∀ set, q.candidatesFrom d = .ok set → ∀ path ∈ set.paths, ¬IsBare path := by
    intro set hset path hpath hbare
    rcases isRooted_or_mem_declared h hset hpath with hrooted | ⟨declared, hdeclared, hmem⟩
    · exact hbare.not_isRooted hrooted
    · exact hbare.not_isRooted (hhints declared hdeclared path hmem)
  have hagrees : q.AgreesOnBareNames d d' := fun declared hdeclared path hpath _ ↦
    q.inspector.agreesAt (hhints declared hdeclared path hpath) d d'
  refine (referencesFrom_eq_iff hp h hagrees).mpr fun set hset ↦ ⟨?_, ?_⟩
  · rintro ⟨-, base, hbase, hnone⟩
    exact absurd hnone (hbare set hset base (List.mem_of_find?_eq_some hbase))
  · rintro ⟨-, core, hcore, hnone, -⟩
    exact absurd hnone (hbare set hset core (List.mem_of_find?_eq_some hcore))

end Inquiry

/-! ### An instance -/

/-- An inquiry about a project that hints at a base runtime in a directory of its own, over a file
system with the given files in that directory. The language core lies in the directory of the
running framework and in one other. -/
def hintedRuntime (library : List (String × Node)) : Inquiry where
  fs := {
    root := .directory [
      ("app", .directory [("lib", .directory library false)] false),
      ("rt", .directory [("FSharp.Core.dll", .file .empty false)] false),
      ("work", .directory [("FSharp.Core.dll", .file .empty false)] false)] false
    currentDirectory := "/" }
  project := { hostedProject [] with
    fileName := "/app/App.fsproj"
    references := [
      { kind := .assembly, identity := "mscorlib", hintPath := some "lib/mscorlib.dll" }] }
  runtime := .fixed (hostedProject []).runtime
  selection := {}
  options := runtimeOptions
  inspector := .files .cli

theorem hasRootedPaths_hintedRuntime (library : List (String × Node)) :
    (hintedRuntime library).HasRootedPaths where
  project := {
    fileName := show isRooted "/app/App.fsproj" = true by decide
    packages := by
      intro r hr package hpackage
      obtain rfl := List.mem_singleton.mp hr
      cases hpackage
    outputs := by
      intro n hn
      cases hn
    hostAssemblies := by
      intro path hpath
      cases hpath }
  facades := by
    intro facades hfacades path hpath
    obtain rfl := Except.ok.inj hfacades
    cases hpath
  env := {
    runtimeDirectory := by
      intro directory hdirectory
      obtain rfl := Option.some.inj hdirectory
      decide
    referenceRoots := by
      intro root hroot
      cases hroot
    caches := by
      intro cache hcache
      cases hcache }

theorem agreesOnBareNames_hintedRuntime : (hintedRuntime []).AgreesOnBareNames "/" "/app" := by
  have hdeclared : (hintedRuntime []).declaredFrom "/" = .ok ["mscorlib.dll"] := by decide +kernel
  intro declared hdeclared' path hpath _
  obtain rfl := Except.ok.inj (hdeclared.symm.trans hdeclared')
  obtain rfl := List.mem_singleton.mp hpath
  exact Inspector.agreesAt_ofParser_of_read_eq (by decide +kernel)

/-- The directory of the request has no say where the hint leads to a file, and none where it leads
nowhere and there is no language core in either directory. -/
theorem referencesFrom_independent_hinted :
    (hintedRuntime []).project.isPortable = false
      ∧ (hintedRuntime []).HasRootedPaths
      ∧ (hintedRuntime []).AgreesOnBareNames "/" "/app"
      ∧ (hintedRuntime []).referencesFrom "/" = (hintedRuntime []).referencesFrom "/app"
      ∧ (hintedRuntime [("mscorlib.dll", .file .empty false)]).referencesFrom "/work"
        = (hintedRuntime [("mscorlib.dll", .file .empty false)]).referencesFrom "/" := by
  refine ⟨by decide, hasRootedPaths_hintedRuntime [], agreesOnBareNames_hintedRuntime, ?_, ?_⟩
  · have hlookups : (hintedRuntime []).AgreesOnLookups "/" "/app" :=
      fun set _ ↦ ⟨fun _ ↦ by decide +kernel, fun _ ↦ by decide +kernel⟩
    exact ((Inquiry.referencesFrom_independent (by decide) (hasRootedPaths_hintedRuntime [])
      "/" "/app").2 agreesOnBareNames_hintedRuntime).mpr hlookups
  · have hdeclared : (hintedRuntime [("mscorlib.dll", .file .empty false)]).declaredFrom "/work"
        = .ok ["/app/lib/mscorlib.dll"] := by decide +kernel
    refine (Inquiry.referencesFrom_independent (by decide)
      (hasRootedPaths_hintedRuntime _) "/work" "/").1 fun declared hdeclared' path hpath ↦ ?_
    obtain rfl := Except.ok.inj (hdeclared.symm.trans hdeclared')
    obtain rfl := List.mem_singleton.mp hpath
    decide

/-- From `/work`, the language core is found in the place of the one of the running framework. -/
theorem referencesFrom_work_ne : (hintedRuntime []).project.isPortable = false
    ∧ (hintedRuntime []).HasRootedPaths
    ∧ (hintedRuntime []).referencesFrom "/work"
        = .ok [.reference "FSharp.Core.dll", .reference "mscorlib.dll"]
    ∧ (hintedRuntime []).referencesFrom "/"
        = .ok [.reference "/rt/FSharp.Core.dll", .reference "mscorlib.dll"]
    ∧ (hintedRuntime []).referencesFrom "/work" ≠ (hintedRuntime []).referencesFrom "/" := by
  have hwork : (hintedRuntime []).referencesFrom "/work"
      = .ok [.reference "FSharp.Core.dll", .reference "mscorlib.dll"] := by decide +kernel
  have hroot : (hintedRuntime []).referencesFrom "/"
      = .ok [.reference "/rt/FSharp.Core.dll", .reference "mscorlib.dll"] := by decide +kernel
  refine ⟨by decide, hasRootedPaths_hintedRuntime [], hwork, hroot, ?_⟩
  rw [hwork, hroot]
  decide

end FSharpFlags
