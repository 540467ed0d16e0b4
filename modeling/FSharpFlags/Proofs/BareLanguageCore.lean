import FSharpFlags.Proofs.DirectoryIndependence
import FSharpFlags.Proofs.PathText
import FSharpFlags.Proofs.ProjectOutput

/-!
# Whether a bare mention of the language core is left

Bare mentions of the language core are dropped before the core assemblies are looked up, so that one
can be left only if a lookup brings it in. What a lookup finds is spelled with the directory it was
found in; the directories of the environment are rooted, and the base runtime is never mistaken for
the language core. One way remains: the language core is missing, and it is looked for beside a base
runtime whose own path has no directory. Read as a path, such a name lies in the current directory,
and a language core that happens to be there is spelled as a bare mention again.

Since nothing else is looked up then, the mention is the first of the references.
-/

namespace FSharpFlags

open FileSystem

variable {fs : FileSystem} {path : String}

/-! ## What is no bare mention -/

/-- The library of the base runtime is no mention of the language core: it has a `b`. -/
theorem EndsInLibrary.isBareLanguageCore_eq_false (h : EndsInLibrary baseRuntime path) :
    isBareLanguageCore path = false := by
  have hmem : 'b' ∈ path.toList := h.suffix.subset (by decide)
  exact isBareLanguageCore_eq_false_of_char hmem (by decide) (by decide) (by decide)

theorem Path.parent_child {p : Path} {w : String}
    (hsep : ∀ c ∈ w.toList, isSeparator c = false) (hw : isPart w.toList = true) :
    (p.child w).parent = p := by
  rw [child, parse_of_isPart hsep hw, join_of_relative rfl]
  exact p.parent_entry w

/-- The language core in a directory is spelled as a bare mention in the current one only. -/
theorem isBareLanguageCore_assemblyIn_iff {directory : Path} (h : directory.IsRead) :
    isBareLanguageCore (assemblyIn directory.text languageCore) = true ↔ directory = .here := by
  have hcore : languageCore ∈ coreAssemblies := List.mem_cons_self
  rw [assemblyIn, Path.parse_text h]
  constructor
  · intro hbare
    have hslash : IsBare (directory.child (languageCore ++ ".dll")).text := by
      intro hmem
      rw [isBareLanguageCore_eq_false_of_mem hmem] at hbare
      cases hbare
    rw [Path.isBare_text_iff (h.child _)] at hslash
    rwa [Path.parent_child (isPlain_of_mem_coreAssemblies hcore).append_dll
      (isPart_append_dll languageCore)] at hslash
  · rintro rfl
    rw [text_child_here hcore]
    decide

theorem isBareLanguageCore_of_findAssembly {directories : List String} {name : String}
    (h : ∀ directory ∈ directories, isRooted directory = true)
    (hpath : findAssembly fs directories name = some path) : isBareLanguageCore path = false :=
  isBareLanguageCore_eq_false_of_isRooted (isRooted_of_findAssembly h hpath)

/-! ## What the lookups add -/

theorem CoreStrategy.outcome_run_defaultDirectories_eq_ok {inputs : CoreInputs} (name : String) :
    (CoreStrategy.defaultDirectories.run fs inputs name).outcome
      = .ok (findAssembly fs (inputs.env.defaultDirectories inputs.language inputs.target) name) :=
  outcome_findDefaultReference fs inputs.env inputs.language inputs.target name none

theorem CoreLookup.answer_singleton {inputs : CoreInputs} {name : String}
    {strategy : CoreStrategy} {found : Option String}
    (h : (strategy.run fs inputs name).outcome = .ok found) :
    (CoreLookup.mk name [strategy]).answer fs inputs = found := by
  rw [answer, find, firstResult_singleton, h]

namespace ReferenceSet

variable {set : ReferenceSet} {env : CompilerEnvironment} {language : Option LanguageVersion}
  {target : TargetFramework} {inspector : Inspector} {r : Reconciliation}

/-- Whether the language core is found in the current directory: it is missing, the path of the base
runtime has no directory, and the current one has a language core. -/
def FindsLanguageCoreHere (fs : FileSystem) (set : ReferenceSet) : Prop :=
  set.find? languageCore = none
    ∧ (∃ base, set.find? baseRuntime = some base ∧ (Path.parse base).parent = .here)
    ∧ fs.reaches (languageCore ++ ".dll") = true

/-- A lookup for the language core alone adds what it finds beside the base runtime. -/
theorem added_of_missingLanguageCore {base : String} (hcore : set.find? languageCore = none)
    (hbase : set.find? baseRuntime = some base)
    (h : (set.reconcile fs env language target inspector).outcome = .ok r) :
    r.added = (findAssembly fs ((Path.parse base).parent.text
      :: env.defaultDirectories language target) languageCore).toList := by
  have hlookups : set.coreCase.lookups = [⟨languageCore, [.besideBaseRuntime]⟩] := by
    rw [coreCase_eq set hcore hbase]
    rfl
  have hgiven : base.isEmpty = false :=
    isEmpty_eq_false_of_find? (List.mem_cons_of_mem _ List.mem_cons_self) hbase
  have hanswer : CoreLookup.answer fs (set.coreInputs env language target inspector)
      ⟨languageCore, [.besideBaseRuntime]⟩ = findAssembly fs ((Path.parse base).parent.text
        :: env.defaultDirectories language target) languageCore :=
    CoreLookup.answer_singleton (CoreStrategy.outcome_run_besideBaseRuntime hbase hgiven)
  rw [(reconcile_of_ok h).2.1, hlookups, List.filterMap_cons, List.filterMap_nil, hanswer]
  cases findAssembly fs ((Path.parse base).parent.text
    :: env.defaultDirectories language target) languageCore <;> rfl

/-- With both core assemblies missing, what is added comes from the default directories. -/
theorem isRooted_of_mem_added_of_missingBoth (henv : env.IsRooted)
    (hcore : set.find? languageCore = none) (hbase : set.find? baseRuntime = none)
    (h : (set.reconcile fs env language target inspector).outcome = .ok r)
    (hpath : path ∈ r.added) : isRooted path = true := by
  rw [(reconcile_of_ok h).2.1] at hpath
  obtain ⟨lookup, hlookup, hanswer⟩ := List.mem_filterMap.mp hpath
  have hstrategies : ∀ lookup ∈ CoreCase.missingBoth.lookups,
      lookup = ⟨lookup.name, [.defaultDirectories]⟩ := by
    simp [CoreCase.lookups]
  rw [coreCase_eq set hcore hbase] at hlookup
  rw [hstrategies lookup hlookup,
    CoreLookup.answer_singleton (CoreStrategy.outcome_run_defaultDirectories_eq_ok _)] at hanswer
  exact isRooted_of_findAssembly (henv.forall_defaultDirectories language target) hanswer

theorem assemblyIn_here : assemblyIn Path.here.text languageCore = languageCore ++ ".dll" :=
  text_child_here List.mem_cons_self

/-- A language core in the current directory is all that is added. -/
theorem added_of_findsLanguageCoreHere (hhere : set.FindsLanguageCoreHere fs)
    (h : (set.reconcile fs env language target inspector).outcome = .ok r) :
    r.added = [languageCore ++ ".dll"] := by
  obtain ⟨hcore, ⟨base, hbase, hparent⟩, hreaches⟩ := hhere
  rw [added_of_missingLanguageCore hcore hbase h, hparent, findAssembly_cons, assemblyIn_here,
    if_pos hreaches]
  rfl

/-- **A bare mention among the added paths** is a language core in the current directory. -/
theorem findsLanguageCoreHere_of_mem_added (henv : env.IsRooted)
    (h : (set.reconcile fs env language target inspector).outcome = .ok r) (hpath : path ∈ r.added)
    (hbare : isBareLanguageCore path = true) : set.FindsLanguageCoreHere fs := by
  have hdefault := henv.forall_defaultDirectories language target
  have hnotFound : ¬findAssembly fs (env.defaultDirectories language target) languageCore
      = some path := by
    intro hfound
    rw [isBareLanguageCore_of_findAssembly hdefault hfound] at hbare
    cases hbare
  obtain ⟨name, hname, hmissing, hends⟩ := exists_endsInLibrary_of_mem_added h hpath
  have hcore : set.find? languageCore = none := by
    rcases List.mem_pair.mp hname with rfl | rfl
    · exact hmissing
    · rw [hends.isBareLanguageCore_eq_false] at hbare
      cases hbare
  cases hbase : set.find? baseRuntime with
  | none =>
    rw [isBareLanguageCore_eq_false_of_isRooted
      (isRooted_of_mem_added_of_missingBoth henv hcore hbase h hpath)] at hbare
    cases hbare
  | some base =>
    rw [added_of_missingLanguageCore hcore hbase h, Option.mem_toList, findAssembly_cons] at hpath
    split_ifs at hpath with hreaches
    · obtain rfl := Option.some.inj hpath
      have hparent := (isBareLanguageCore_assemblyIn_iff
        (Path.isRead_parse base).parent).mp hbare
      rw [hparent, assemblyIn_here] at hreaches
      exact ⟨hcore, ⟨base, hbase, hparent⟩, hreaches⟩
    · exact absurd hpath hnotFound

end ReferenceSet

/-! ## The references of a project -/

namespace Project

variable {p : Project} {selection : Selection} {o : GenerationOptions}
  {options : List CompilerOption}

/-- **No bare mention of the language core is left** in a project that is not portable, unless the
language core is found in the current directory. In that case the mention is spelled as the library
of the language core, comes first and is the only one. -/
theorem referenceOptions_bareLanguageCore_iff (hp : p.isPortable = false)
    (henv : o.env.IsRooted)
    (h : (p.referenceOptions fs selection o).outcome = .ok options) :
    ∃ set, (p.candidateSet fs selection o.inspector).outcome = .ok set
      ∧ ((∀ path, .reference path ∈ options → isBareLanguageCore path = false)
        ↔ ¬set.FindsLanguageCoreHere fs)
      ∧ (set.FindsLanguageCoreHere fs →
        options = .reference (languageCore ++ ".dll") :: set.paths.map .reference)
      ∧ ∀ path ∈ set.paths, isBareLanguageCore path = false := by
  obtain ⟨paths, hpaths, rfl⟩ := exists_of_referenceOptions h
  obtain ⟨set, r, hr, rfl⟩ := exists_of_referencePaths hp hpaths
  obtain ⟨hset, hreconcile⟩ := reconciled_eq_ok_iff.mp hr
  have hkept : ∀ path ∈ set.paths, isBareLanguageCore path = false := by
    obtain ⟨located, facades, -, -, rfl⟩ := exists_of_candidateSet hset
    intro path hpath
    have hfiltered := (List.mem_filter.mp (ReferenceSet.mem_of_mem_ofList hpath)).2
    rwa [Bool.not_eq_true'] at hfiltered
  refine ⟨set, hset, ⟨fun hnone hhere ↦ ?_, fun hnot path hpath ↦ ?_⟩, fun hhere ↦ ?_, hkept⟩
  · have hadded := ReferenceSet.added_of_findsLanguageCoreHere hhere hreconcile
    have hbare := hnone (languageCore ++ ".dll") (by simp [hadded])
    revert hbare
    decide
  · obtain ⟨q, hq, heq⟩ := List.mem_map.mp hpath
    obtain rfl : q = path := by simpa using heq
    rcases List.mem_append.mp hq with hadded | hstored
    · rw [← Bool.not_eq_true]
      exact fun hbare ↦ hnot (ReferenceSet.findsLanguageCoreHere_of_mem_added henv hreconcile
        hadded hbare)
    · exact hkept _ hstored
  · rw [ReferenceSet.added_of_findsLanguageCoreHere hhere hreconcile]
    rfl

/-! ### Instances -/

theorem isRooted_env_runtimeOptions : runtimeOptions.env.IsRooted :=
  (hasRootedPaths_hintedRuntime []).env

/-- What the host resolves holds a bare mention, which is dropped, and nothing brings it back. -/
theorem referenceOptions_bareLanguageCore_hosted :
    (hostedProject ["/lib/A.dll", "FSharp.Core"]).isPortable = false
      ∧ runtimeOptions.env.IsRooted
      ∧ ∃ set, ((hostedProject ["/lib/A.dll", "FSharp.Core"]).candidateSet coreLibraries {}
          runtimeOptions.inspector).outcome = .ok set
        ∧ ¬set.FindsLanguageCoreHere coreLibraries := by
  have h : ((hostedProject ["/lib/A.dll", "FSharp.Core"]).referenceOptions coreLibraries {}
      runtimeOptions).outcome = .ok [.reference "/rt/FSharp.Core.dll",
        .reference "/rt/mscorlib.dll", .reference "/lib/A.dll"] := by decide +kernel
  obtain ⟨set, hset, hnone, -⟩ :=
    referenceOptions_bareLanguageCore_iff (by decide) isRooted_env_runtimeOptions h
  refine ⟨by decide, isRooted_env_runtimeOptions, set, hset, hnone.mp fun path hpath ↦ ?_⟩
  refine isBareLanguageCore_eq_false_of_isRooted ?_
  simp only [List.mem_cons, CompilerOption.reference.injEq, List.not_mem_nil, or_false] at hpath
  rcases hpath with rfl | rfl | rfl <;> decide

/-- Asked from `/work`, where a language core is, a hint to the base runtime that leads nowhere
makes a bare mention the first reference. -/
theorem referenceOptions_bareLanguageCore_work :
    (hintedRuntime []).project.isPortable = false
      ∧ runtimeOptions.env.IsRooted
      ∧ ((hintedRuntime []).project.referenceOptions ((hintedRuntime []).fs.seenFrom "/work") {}
          runtimeOptions).outcome
        = .ok [.reference "FSharp.Core.dll", .reference "mscorlib.dll"]
      ∧ isBareLanguageCore "FSharp.Core.dll" = true :=
  ⟨by decide, isRooted_env_runtimeOptions, by decide +kernel, by decide⟩

end Project

end FSharpFlags
