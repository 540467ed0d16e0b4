import FSharpFlags.Flags.Generation
import FSharpFlags.Proofs.CoreAccounting
import FSharpFlags.Proofs.ListingOrder

/-!
# The references of a project

Several sources feed the references of a project: what it declares, what its host resolves, the
facades that apply or the libraries of its profile, and last what reconciliation looks up. Here
the list that comes out is put together from the lists that went in, so that nothing is lost on
the way, nothing comes from anywhere else, and nothing changes places.

Everything that goes through the reference set is kept once for each key. The paths that were
looked up do not go through it: they are put in front of a set that was searched for them in
vain. Whether keys can then repeat comes down to how the search and the key differ, which is in
the open-ended paths and nowhere else.
-/

namespace FSharpFlags

variable {fs : FileSystem}

open ReferenceSet (names)

/-- The path of an option that is a reference. -/
def CompilerOption.reference? : CompilerOption → Option String
  | .reference path => some path
  | _ => none

theorem filterMap_reference? (paths : List String) :
    (paths.map CompilerOption.reference).filterMap CompilerOption.reference? = paths := by
  rw [List.filterMap_map]
  exact List.filterMap_some

namespace Project

/-- The project over a runtime that reports other facades. -/
def withFacades (p : Project) (facades : Moniker → Except Failure (List String)) : Project :=
  { p with runtime := { p.runtime with facades } }

/-- The project in a host that resolves other assemblies. -/
def withHostAssemblies (p : Project) (assemblies : String → List String) : Project :=
  { p with referencedAssemblies := assemblies }

variable {p : Project} {selection : Selection} {o : GenerationOptions} {set : ReferenceSet}
  {paths : List String} {options : List CompilerOption}

/-! ## From the sources to the list -/

theorem exists_of_collect (h : p.collect fs selection = .ok paths) :
    ∃ located, p.references.mapM (p.pathsOf fs selection) = .ok located
      ∧ paths = located.flatten := by
  obtain ⟨located, hlocated, h⟩ := bind_eq_ok_iff.mp h
  rw [List.filter_true] at hlocated
  exact ⟨located, hlocated, (Except.ok.inj h).symm⟩

/-- What a project that is not portable refers to, before the core assemblies are seen to. -/
theorem exists_of_candidateSet {inspector : Inspector}
    (h : (p.candidateSet fs selection inspector).outcome = .ok set) :
    ∃ located facades, p.references.mapM (p.pathsOf fs selection) = .ok located
      ∧ (p.applicableFacades fs selection inspector).outcome = .ok facades
      ∧ set = .ofList ((located.flatten ++ p.referencedAssemblies (p.selector selection)
          ++ facades).filter fun path ↦ !isBareLanguageCore path) := by
  obtain ⟨paths, hpaths, hset⟩ := Attempt.outcome_bind_eq_ok_iff.mp h
  obtain ⟨declared, hdeclared, hpaths⟩ := Attempt.outcome_bind_eq_ok_iff.mp hpaths
  obtain ⟨resolved, hresolved, hpaths⟩ := Attempt.outcome_bind_eq_ok_iff.mp hpaths
  obtain ⟨facades, hfacades, hpaths⟩ := Attempt.outcome_bind_eq_ok_iff.mp hpaths
  obtain ⟨located, hlocated, rfl⟩ := exists_of_collect hdeclared
  obtain rfl := Except.ok.inj hresolved
  obtain rfl := Except.ok.inj hpaths
  exact ⟨located, facades, hlocated, hfacades, (Except.ok.inj hset).symm⟩

theorem exists_of_portableReferences (h : p.portableReferences fs selection = .ok set) :
    ∃ located libraries, p.references.mapM (p.pathsOf fs selection) = .ok located
      ∧ p.portableLibraries fs = .ok libraries
      ∧ set = .ofList (located.flatten ++ libraries) := by
  obtain ⟨declared, hdeclared, h⟩ := bind_eq_ok_iff.mp h
  obtain ⟨libraries, hlibraries, h⟩ := bind_eq_ok_iff.mp h
  obtain ⟨located, hlocated, rfl⟩ := exists_of_collect hdeclared
  refine ⟨located, libraries, hlocated, hlibraries, ?_⟩
  rw [ReferenceSet.ofList, ReferenceSet.extend_append]
  exact (Except.ok.inj h).symm

theorem reconciled_eq_ok_iff {r : Reconciliation} :
    (p.reconciled fs selection o).outcome = .ok (set, r)
      ↔ (p.candidateSet fs selection o.inspector).outcome = .ok set
        ∧ (set.reconcile fs o.env o.language (o.targetOf p) o.inspector).outcome = .ok r := by
  constructor
  · intro h
    obtain ⟨set', hset, h⟩ := Attempt.outcome_bind_eq_ok_iff.mp h
    obtain ⟨r', hr, h⟩ := Attempt.outcome_bind_eq_ok_iff.mp h
    cases h
    exact ⟨hset, hr⟩
  · rintro ⟨hset, hr⟩
    exact Attempt.outcome_bind_eq_ok_iff.mpr
      ⟨set, hset, Attempt.outcome_bind_eq_ok_iff.mpr ⟨r, hr, rfl⟩⟩

theorem exists_of_referencePaths (hp : p.isPortable = false)
    (h : (p.referencePaths fs selection o).outcome = .ok paths) :
    ∃ set r, (p.reconciled fs selection o).outcome = .ok (set, r)
      ∧ paths = r.added ++ set.paths := by
  rw [referencePaths, if_neg (by simp [hp])] at h
  obtain ⟨⟨set, r⟩, hr, h⟩ := Attempt.outcome_bind_eq_ok_iff.mp h
  exact ⟨set, r, hr, (Except.ok.inj h).symm⟩

theorem exists_of_referenceOptions
    (h : (p.referenceOptions fs selection o).outcome = .ok options) :
    ∃ paths, (p.referencePaths fs selection o).outcome = .ok paths
      ∧ options = paths.map .reference := by
  obtain ⟨paths, hpaths, h⟩ := Attempt.outcome_bind_eq_ok_iff.mp h
  exact ⟨paths, hpaths, (Except.ok.inj h).symm⟩

/-! ## Nothing is lost, added or moved -/

theorem mem_filter_isBareLanguageCore {candidates : List String} {path : String}
    (h : path ∈ candidates) (hbare : isBareLanguageCore path = false) :
    path ∈ candidates.filter fun path ↦ !isBareLanguageCore path := by
  rw [List.mem_filter, hbare]
  exact ⟨h, rfl⟩

/-- A portable project has no other source than its declared references and its profile. -/
theorem referenceOptions_of_isPortable (hp : p.isPortable = true)
    (o : GenerationOptions) : p.referenceOptions fs selection o
      = Attempt.ofExcept ((p.portableReferences fs selection).map
          fun set ↦ set.paths.map .reference) := by
  rw [referenceOptions, referencePaths, if_pos hp]
  cases h : p.portableReferences fs selection <;> rfl

theorem exists_of_referenceOptions_of_isPortable (hp : p.isPortable = true)
    (h : (p.referenceOptions fs selection o).outcome = .ok options) :
    ∃ located libraries, p.references.mapM (p.pathsOf fs selection) = .ok located
      ∧ p.portableLibraries fs = .ok libraries
      ∧ options = (firstOfEachKey (located.flatten ++ libraries)).map .reference := by
  rw [referenceOptions_of_isPortable hp, Attempt.outcome_ofExcept] at h
  cases hset : p.portableReferences fs selection with
  | error failure =>
    rw [hset] at h
    cases h
  | ok set =>
    rw [hset] at h
    obtain rfl := Except.ok.inj h
    obtain ⟨located, libraries, hlocated, hlibraries, rfl⟩ := exists_of_portableReferences hset
    exact ⟨located, libraries, hlocated, hlibraries,
      congrArg (List.map _) (ReferenceSet.paths_ofList _)⟩

/-- **What a project refers to is what went in.** A project that is not portable refers to the
looked-up paths and then to the first path of each key among its candidates: the declared
references, the assemblies that the host resolves and the facades, without bare mentions of the
language core. A portable one refers to its declared references and the libraries of its profile,
and nothing else in the world has a say in it. -/
theorem referenceOptions_faithful
    (h : (p.referenceOptions fs selection o).outcome = .ok options) :
    (p.isPortable = false → ∃ located facades r,
      let candidates := located.flatten ++ p.referencedAssemblies (p.selector selection) ++ facades
      let kept := candidates.filter fun path ↦ !isBareLanguageCore path
      p.references.mapM (p.pathsOf fs selection) = .ok located
        ∧ (p.applicableFacades fs selection o.inspector).outcome = .ok facades
        ∧ ((ReferenceSet.ofList kept).reconcile fs o.env o.language (o.targetOf p)
            o.inspector).outcome = .ok r
        ∧ options = (r.added ++ firstOfEachKey kept).map .reference
        ∧ (∀ path ∈ candidates, isBareLanguageCore path = false →
            ∃ q, .reference q ∈ options ∧ referenceKey q = referenceKey path)
        ∧ ∀ option ∈ options, ∃ path, option = .reference path
            ∧ (path ∈ r.added ∨ path ∈ candidates))
      ∧ (p.isPortable = true → ∃ located libraries,
        p.references.mapM (p.pathsOf fs selection) = .ok located
          ∧ p.portableLibraries fs = .ok libraries ∧ libraries.Pairwise (· ≤ ·)
          ∧ options = (firstOfEachKey (located.flatten ++ libraries)).map .reference
          ∧ (p.referenceOptions fs selection o).events = []
          ∧ ∀ facades assemblies o',
            ((p.withFacades facades).withHostAssemblies assemblies).referenceOptions fs selection o'
              = p.referenceOptions fs selection o) := by
  constructor
  · intro hp
    obtain ⟨paths, hpaths, rfl⟩ := exists_of_referenceOptions h
    obtain ⟨set, r, hreconciled, rfl⟩ := exists_of_referencePaths hp hpaths
    obtain ⟨hset, hr⟩ := reconciled_eq_ok_iff.mp hreconciled
    obtain ⟨located, facades, hlocated, hfacades, rfl⟩ := exists_of_candidateSet hset
    rw [ReferenceSet.paths_ofList]
    refine ⟨located, facades, r, hlocated, hfacades, hr, rfl, ?_, ?_⟩
    · intro path hpath hbare
      obtain ⟨q, hq, hkey⟩ := exists_mem_firstOfEachKey
        (mem_filter_isBareLanguageCore hpath hbare)
      exact ⟨q, List.mem_map_of_mem (List.mem_append_right _ hq), hkey⟩
    · intro option hoption
      obtain ⟨path, hpath, rfl⟩ := List.mem_map.mp hoption
      refine ⟨path, rfl, (List.mem_append.mp hpath).imp_right fun hq ↦ ?_⟩
      exact List.mem_of_mem_filter (mem_of_mem_firstOfEachKey hq)
  · intro hp
    -- None of the sources that remain looks at the fields that are exchanged here.
    have hsame : ∀ facades assemblies o',
        ((p.withFacades facades).withHostAssemblies assemblies).referenceOptions fs selection o'
          = p.referenceOptions fs selection o := by
      intro facades assemblies o'
      have hp' : ((p.withFacades facades).withHostAssemblies assemblies).isPortable = true := hp
      rw [referenceOptions_of_isPortable hp', referenceOptions_of_isPortable hp]
      rfl
    obtain ⟨located, libraries, hlocated, hlibraries, hoptions⟩ :=
      exists_of_referenceOptions_of_isPortable hp h
    refine ⟨located, libraries, hlocated, hlibraries, pairwise_profileLibraries hlibraries,
      hoptions, ?_, hsame⟩
    rw [referenceOptions_of_isPortable hp]
    rfl

end Project

/-! ### An instance -/

/-- A project without declared references in a host that resolves the given assemblies. -/
def hostedProject (assemblies : List String) : Project where
  name := "App"
  fileName := "/work/App/App.fsproj"
  framework := { identifier := Moniker.desktop, version := "4.5" }
  compileTarget := "exe"
  defaultConfiguration := some "Debug"
  files := []
  outputFile _ := "/work/App/bin/Debug/App.dll"
  runtime := {
    frameworks := .ok []
    isInstalled _ := .ok true
    toolDirectories _ := []
    referenceDirectories := []
    facades _ := .ok [] }
  references := []
  configuration _ := some (.compiled { name := "Debug" })
  referencedProjects _ := []
  referencedAssemblies _ := assemblies
  resolveProject _ := none

/-- A file system with both core assemblies. -/
def coreLibraries : FileSystem where
  root := .directory [("rt", .directory [("FSharp.Core.dll", .file .empty false),
    ("mscorlib.dll", .file .empty false)] false)] false
  currentDirectory := "/work"

/-- Options under which the core assemblies are looked up in the directory that has them. -/
def runtimeOptions : GenerationOptions where
  env := { runtimeDirectory := some "/rt" }
  inspector := { references := fun _ ↦ .unreadable "", framework := fun _ ↦ .unreadable "" }

/-- A project that declares an assembly of a package and that refers to a portable project, so that
the facades of its runtime apply. Its host resolves the declared assembly in another spelling, a
bare language core and one more assembly. -/
def facadeProject : Project :=
  let hosted := hostedProject ["FSharp.Core", "/LIB/a.dll", "/host/B.dll"]
  { hosted with
    references := [
      { kind := .package, identity := "A", package := some ⟨"P", [⟨"A", "A", "/lib/A.dll"⟩]⟩ }]
    referencedProjects := fun _ ↦ [{ hosted.toProjectOutside with
      framework := { identifier := Moniker.portable, version := "4.5", profile := "Profile111" } }]
    runtime := { hosted.runtime with
      facades := fun _ ↦ .ok ["/facades/mscorlib.dll", "/facades/System.Runtime.dll"] } }

/-- The references come from all of their sources: behind the looked-up assemblies stand the
declared one in its first spelling, the one that only the host resolves, and the facade that
applies. -/
theorem referenceOptions_faithful_hosted :
    ∃ (located : List (List String)) (facades : List String) (r : Reconciliation),
      let candidates := located.flatten ++ ["FSharp.Core", "/LIB/a.dll", "/host/B.dll"] ++ facades
      let kept := candidates.filter fun path ↦ !isBareLanguageCore path
      located = [["/lib/A.dll"]] ∧ facades = ["/facades/System.Runtime.dll"]
        ∧ ((ReferenceSet.ofList kept).reconcile coreLibraries runtimeOptions.env none .net45
            runtimeOptions.inspector).outcome = .ok r
        ∧ r.added ++ firstOfEachKey kept = ["/rt/FSharp.Core.dll", "/rt/mscorlib.dll",
            "/lib/A.dll", "/host/B.dll", "/facades/System.Runtime.dll"] := by
  have h : (facadeProject.referenceOptions coreLibraries {} runtimeOptions).outcome
      = .ok (["/rt/FSharp.Core.dll", "/rt/mscorlib.dll", "/lib/A.dll", "/host/B.dll",
          "/facades/System.Runtime.dll"].map .reference) := by decide +kernel
  have hdeclared : facadeProject.references.mapM (facadeProject.pathsOf coreLibraries {})
      = .ok [["/lib/A.dll"]] := by decide +kernel
  have happlicable : (facadeProject.applicableFacades coreLibraries {}
      runtimeOptions.inspector).outcome = .ok ["/facades/System.Runtime.dll"] := by decide +kernel
  obtain ⟨located, facades, r, hlocated, hfacades, hreconciled, hoptions, -⟩ :=
    (Project.referenceOptions_faithful h).1 (by decide)
  obtain rfl := Except.ok.inj (hdeclared.symm.trans hlocated)
  obtain rfl := Except.ok.inj (happlicable.symm.trans hfacades)
  refine ⟨_, _, r, rfl, rfl, hreconciled, ?_⟩
  have hpaths := congrArg (List.filterMap CompilerOption.reference?) hoptions
  rw [filterMap_reference?, filterMap_reference?] at hpaths
  exact hpaths.symm

/-! ## Where keys repeat -/

namespace ReferenceSet

variable {set : ReferenceSet} {env : CompilerEnvironment} {language : Option LanguageVersion}
  {target : TargetFramework} {inspector : Inspector} {r : Reconciliation}

theorem nodup_keys_added
    (h : (set.reconcile fs env language target inspector).outcome = .ok r) :
    (r.added.map referenceKey).Nodup := by
  -- Each assembly is looked up once, and an answer ends in the library that was looked up.
  have hnames : (set.coreCase.lookups.map (·.name)).Nodup := by
    rw [map_name_lookups]
    exact List.Nodup.filter _ (by decide)
  rw [(reconcile_of_ok h).2.1, List.Nodup, List.pairwise_map, List.pairwise_filterMap]
  refine (List.pairwise_map.mp hnames).imp_of_mem ?_
  intro lookup other hlookup hother hne a ha b hb
  exact (endsInLibrary_of_answer h hlookup ha).referenceKey_ne (endsInLibrary_of_answer h hother hb)
    (mem_lookups hlookup).1 (mem_lookups hother).1 hne

/-- Only an open-ended path of the set can have the key of a path that was looked up. -/
theorem isOpenEnded_of_referenceKey_eq {a q : String}
    (h : (set.reconcile fs env language target inspector).outcome = .ok r)
    (ha : a ∈ r.added) (hq : q ∈ set.paths) (hkey : referenceKey q = referenceKey a) :
    isOpenEnded q = true := by
  obtain ⟨name, hname, hmissing, hends⟩ := exists_endsInLibrary_of_mem_added h ha
  by_contra hopen
  rw [Bool.not_eq_true] at hopen
  have hfound := (hends.names_iff_eq_of_key_eq hname hname hkey hopen).mpr rfl
  rw [find?_eq_none_iff.mp hmissing q hq] at hfound
  cases hfound

theorem nodup_keys_added_append_iff
    (h : (set.reconcile fs env language target inspector).outcome = .ok r) :
    ((r.added ++ set.paths).map referenceKey).Nodup
      ↔ ∀ q ∈ set.paths, isOpenEnded q = true → ∀ a ∈ r.added, referenceKey q ≠ referenceKey a := by
  rw [List.map_append, List.nodup_append]
  constructor
  · rintro ⟨-, -, hdisjoint⟩ q hq - a ha hkey
    exact hdisjoint _ (List.mem_map_of_mem ha) _ (List.mem_map_of_mem hq) hkey.symm
  · intro hopen
    refine ⟨nodup_keys_added h, set.nodup_keys, ?_⟩
    intro _ hka _ hkq hkey
    obtain ⟨a, ha, rfl⟩ := List.mem_map.mp hka
    obtain ⟨q, hq, rfl⟩ := List.mem_map.mp hkq
    exact hopen q hq (isOpenEnded_of_referenceKey_eq h ha hq hkey.symm) a ha hkey.symm

end ReferenceSet

namespace Project

variable {p : Project} {selection : Selection} {o : GenerationOptions} {set : ReferenceSet}
  {options : List CompilerOption}

/-- **No two references have one key**, unless a project that is not portable refers to an
open-ended path whose key is that of a path that was looked up. The search passes over such a
path, so the assembly is looked up and put in front of it. -/
theorem nodup_keys_referenceOptions_iff
    (h : (p.referenceOptions fs selection o).outcome = .ok options) :
    ((options.filterMap CompilerOption.reference?).map referenceKey).Nodup
      ↔ p.isPortable = true ∨ ∃ set r, (p.reconciled fs selection o).outcome = .ok (set, r)
        ∧ ∀ q ∈ set.paths, isOpenEnded q = true →
          ∀ a ∈ r.added, referenceKey q ≠ referenceKey a := by
  cases hp : p.isPortable with
  | true =>
    obtain ⟨located, libraries, -, -, rfl⟩ := exists_of_referenceOptions_of_isPortable hp h
    rw [filterMap_reference?]
    exact iff_of_true (nodup_keys_firstOfEachKey _) (Or.inl rfl)
  | false =>
    obtain ⟨paths, hpaths, rfl⟩ := exists_of_referenceOptions h
    obtain ⟨set, r, hreconciled, rfl⟩ := exists_of_referencePaths hp hpaths
    have hr := (reconciled_eq_ok_iff.mp hreconciled).2
    rw [filterMap_reference?, ReferenceSet.nodup_keys_added_append_iff hr]
    constructor
    · intro hopen
      exact Or.inr ⟨set, r, hreconciled, hopen⟩
    · rintro (hportable | ⟨set', r', hreconciled', hopen⟩)
      · cases hportable
      · cases hreconciled.symm.trans hreconciled'
        exact hopen

end Project

/-- An open-ended mention of the language core comes out behind the library it leads to. -/
theorem referenceKey_repeated : ∃ options,
    ((hostedProject ["/rt/mscorlib.dll", "/rt/FSharp.Core.dll/"]).referenceOptions coreLibraries {}
        runtimeOptions).outcome = .ok options
      ∧ ¬((options.filterMap CompilerOption.reference?).map referenceKey).Nodup :=
  ⟨[.reference "/rt/FSharp.Core.dll", .reference "/rt/mscorlib.dll",
    .reference "/rt/FSharp.Core.dll/"], by decide +kernel, by decide +kernel⟩

/-- No path of a set that holds `/lib/A.dll` alone stands in the way of what is looked up. -/
theorem nodup_keys_referenceOptions_hosted : ∃ set r,
    ((hostedProject ["/lib/A.dll"]).reconciled coreLibraries {} runtimeOptions).outcome
        = .ok (set, r)
      ∧ ∀ q ∈ set.paths, isOpenEnded q = true → ∀ a ∈ r.added, referenceKey q ≠ referenceKey a := by
  have h : ((hostedProject ["/lib/A.dll"]).referenceOptions coreLibraries {}
      runtimeOptions).outcome = .ok [.reference "/rt/FSharp.Core.dll",
        .reference "/rt/mscorlib.dll", .reference "/lib/A.dll"] := by decide +kernel
  exact ((Project.nodup_keys_referenceOptions_iff h).mp (by decide)).resolve_left (by decide)

end FSharpFlags
