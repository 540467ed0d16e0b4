import FSharpFlags.Proofs.CoreAccounting
import FSharpFlags.Project.Collection

/-!
# Where the file system refuses a look

A look at a path finds something, finds nothing, or is refused, because a directory on the way is
closed or a name is too long. The first two are answers; the third ends whatever asked.

An operation is described here by its *looks*, the paths that it looks at, in order: it fails
exactly when one of them is refused, and then with the first refusal. A sequence of operations
looks where each of them looks, so the looks of a program are put together along its definition.
A search stops at its first hit and what lies behind it is not looked at, so the looks of a search
depend on the file system too.

Of the lookups for core assemblies only the search for a dependency has looks in this sense. A
default directory that refuses is passed over.
-/

namespace FSharpFlags

namespace Attempt

variable {α β : Type}

/-- Whether an attempt comes to a result. -/
def Returns (x : Attempt α) : Prop := ∃ a, x.outcome = .ok a

theorem returns_pure (a : α) : Returns (pure a) := ⟨a, rfl⟩

theorem returns_note_pure (e : Event) (a : α) : Returns (do note e; pure a) := ⟨a, rfl⟩

theorem Returns.bind {x : Attempt α} {f : α → Attempt β} (hx : x.Returns)
    (hf : ∀ a, (f a).Returns) : (x >>= f).Returns := by
  obtain ⟨a, ha⟩ := hx
  obtain ⟨b, hb⟩ := hf a
  exact ⟨b, outcome_bind_eq_ok_iff.mpr ⟨a, ha, hb⟩⟩

end Attempt

open Attempt (returns_pure returns_note_pure)

/-! ## Looks -/

theorem Place.walk_ne_isDirectory (p : Place) (names : List String) :
    p.walk names ≠ .error .isDirectory := by
  induction names generalizing p with
  | nil => simp
  | cons name rest ih =>
    rw [walk_cons]
    cases hstep : p.step name with
    | ok q => exact ih q
    | error fault =>
      rintro ⟨⟩
      unfold step at hstep
      grind

namespace FileSystem

variable {fs : FileSystem} {α β : Type}

/-- The failure of a look at a path that is refused. -/
def refusal? (fs : FileSystem) (path : String) : Option Failure :=
  match fs.resolve path with
  | .ok _ => none
  | .error failure => if isAbsence failure then none else some failure

theorem resolve_eq_error {path : String} {failure : Failure}
    (h : fs.resolve path = .error failure) :
    failure = .nulInPath ∨ ∃ fault ≠ FileFault.isDirectory, failure = .file fault path := by
  unfold resolve at h
  split_ifs at h
  · exact .inl (Except.error.inj h).symm
  · exact .inr ⟨.missing, by decide, (Except.error.inj h).symm⟩
  · exact .inr ⟨.nameTooLong, by decide, (Except.error.inj h).symm⟩
  · split at h
    · cases h
    · next fault hfault =>
      refine .inr ⟨fault, ?_, (Except.error.inj h).symm⟩
      rintro rfl
      exact Place.walk_ne_isDirectory _ _ hfault

/-- A look is refused for want of a permission or for a name that is too long. -/
theorem denied_or_nameTooLong_of_refusal? {path : String} {failure : Failure}
    (h : fs.refusal? path = some failure) :
    failure = .file .denied path ∨ failure = .file .nameTooLong path := by
  unfold refusal? at h
  split at h
  · cases h
  · next cause hcause =>
    split_ifs at h with habsence
    obtain rfl := Option.some.inj h
    rcases resolve_eq_error hcause with rfl | ⟨fault, hfault, rfl⟩
    · exact absurd rfl habsence
    · cases fault with
      | missing => exact absurd rfl habsence
      | denied => exact .inl rfl
      | notDirectory => exact absurd rfl habsence
      | isDirectory => exact absurd rfl hfault
      | nameTooLong => exact .inr rfl

/-- Whether an operation fails exactly as the first refusal among looks at the paths does. -/
def LooksAt (fs : FileSystem) (looks : List String) (x : Except Failure α) : Prop :=
  ∀ failure, x = .error failure ↔ looks.findSome? fs.refusal? = some failure

theorem LooksAt.exists_ok_iff {looks : List String} {x : Except Failure α}
    (h : fs.LooksAt looks x) : (∃ a, x = .ok a) ↔ ∀ path ∈ looks, fs.refusal? path = none := by
  rw [← List.findSome?_eq_none_iff]
  cases x with
  | ok a =>
    refine iff_of_true ⟨a, rfl⟩ (Option.eq_none_iff_forall_ne_some.mpr fun failure hf ↦ ?_)
    cases (h failure).mpr hf
  | error failure =>
    rw [(h failure).mp rfl]
    simp

theorem looksAt_nil_iff {x : Except Failure α} : fs.LooksAt [] x ↔ ∃ a, x = .ok a := by
  cases x <;> simp [LooksAt]

theorem looksAt_ok (a : α) : fs.LooksAt [] (.ok a : Except Failure α) :=
  looksAt_nil_iff.mpr ⟨a, rfl⟩

/-- **A sequence looks where its parts look**, the second one as long as the first returns. -/
theorem LooksAt.bind {looks rest : List String} {x : Except Failure α} {f : α → Except Failure β}
    (hx : fs.LooksAt looks x) (hf : ∀ a, x = .ok a → fs.LooksAt rest (f a)) :
    fs.LooksAt (looks ++ rest) (x >>= f) := by
  intro failure
  rw [List.findSome?_append]
  -- A failure of the first part is its first refusal, which is also the first of all.
  cases x with
  | error cause =>
    rw [(hx cause).mp rfl]
    simp [Bind.bind, Except.bind]
  | ok a =>
    have hnone : looks.findSome? fs.refusal? = none :=
      List.findSome?_eq_none_iff.mpr (hx.exists_ok_iff.mp ⟨a, rfl⟩)
    rw [hnone]
    exact hf a rfl failure

theorem LooksAt.bind_of_returns {looks : List String} {x : Except Failure α}
    {f : α → Except Failure β} (hx : fs.LooksAt looks x)
    (hf : ∀ a, x = .ok a → ∃ b, f a = .ok b) : fs.LooksAt looks (x >>= f) := by
  rw [← List.append_nil looks]
  exact hx.bind fun a ha ↦ looksAt_nil_iff.mpr (hf a ha)

theorem LooksAt.attempt_bind {looks rest : List String} {x : Attempt α} {f : α → Attempt β}
    (hx : fs.LooksAt looks x.outcome)
    (hf : ∀ a, x.outcome = .ok a → fs.LooksAt rest (f a).outcome) :
    fs.LooksAt (looks ++ rest) (x >>= f).outcome := by
  rw [Attempt.outcome_bind]
  exact hx.bind hf

theorem LooksAt.attempt_bind_of_returns {looks : List String} {x : Attempt α} {f : α → Attempt β}
    (hx : fs.LooksAt looks x.outcome)
    (hf : ∀ a, x.outcome = .ok a → (f a).Returns) : fs.LooksAt looks (x >>= f).outcome := by
  rw [Attempt.outcome_bind]
  exact hx.bind_of_returns hf

theorem looksAt_bind_of_ok {looks : List String} {x : Attempt α} {a : α} {f : α → Attempt β}
    (hx : x.outcome = .ok a) (hf : fs.LooksAt looks (f a).outcome) :
    fs.LooksAt looks (x >>= f).outcome := by
  rw [Attempt.bind_of_ok hx]
  exact hf

theorem looksAt_examine (sort : Node → Bool) (path : String) :
    fs.LooksAt [path] (fs.examine sort path) := by
  intro failure
  rw [List.findSome?_singleton, examine, refusal?]
  cases fs.resolve path with
  | ok node => simp
  | error cause => cases h : isAbsence cause <;> simp [h]

theorem looksAt_mapM {as : List α} {f : α → Except Failure β} {looks : α → List String}
    (h : ∀ a, fs.LooksAt (looks a) (f a)) : fs.LooksAt (as.flatMap looks) (as.mapM f) := by
  induction as with
  | nil => exact looksAt_ok []
  | cons a rest ih =>
    rw [List.mapM_cons, List.flatMap_cons]
    exact (h a).bind fun b _ ↦ ih.bind_of_returns fun bs _ ↦ ⟨b :: bs, rfl⟩

theorem looksAt_filterAuxM (sort : Node → Bool) (paths acc : List String) :
    fs.LooksAt paths (paths.filterAuxM (fs.examine sort) acc) := by
  induction paths generalizing acc with
  | nil => exact looksAt_ok acc
  | cons path rest ih => exact (looksAt_examine sort path).bind fun _ _ ↦ ih _

theorem looksAt_filterM (sort : Node → Bool) (paths : List String) :
    fs.LooksAt paths (paths.filterM (fs.examine sort)) :=
  (looksAt_filterAuxM sort paths []).bind_of_returns fun kept _ ↦ ⟨kept.reverse, rfl⟩

/-! ## Directories -/

theorem looksAt_namesIn (path : String) (keep : String → Bool) :
    fs.LooksAt [path] (fs.namesIn path keep) := by
  refine (looksAt_examine Node.isDirectory path).bind_of_returns fun found hfound ↦ ?_
  cases found with
  | false => exact ⟨[], rfl⟩
  | true =>
    -- What was seen to be a directory can be resolved, so listing it can only be denied.
    unfold examine at hfound
    unfold list
    cases hnode : fs.resolve path with
    | error cause =>
      rw [hnode] at hfound
      dsimp only at hfound
      split at hfound <;> cases hfound
    | ok node =>
      rw [hnode] at hfound
      cases node with
      | file contents closed => cases hfound
      | directory entries closed => cases closed <;> exact ⟨_, rfl⟩

/-- The looks of listing the libraries of a directory. -/
def libraryLooks (fs : FileSystem) (directory : Path) : List String :=
  directory.text :: match fs.namesIn directory.text isLibraryName with
    | .ok names => names.map fun name ↦ (directory.entry name).text
    | .error _ => []

theorem looksAt_libraries (directory : Path) :
    fs.LooksAt (fs.libraryLooks directory) (fs.libraries directory) := by
  refine (looksAt_namesIn directory.text isLibraryName).bind fun names hnames ↦ ?_
  rw [hnames]
  exact looksAt_filterM Node.isFile _

end FileSystem

/-! ## Dependencies -/

namespace AssemblyReference

open FileSystem

variable {fs : FileSystem} {r : AssemblyReference}

/-- The looks of a search for the first file: up to the first hit. -/
def firstFileLooks (fs : FileSystem) : List Path → List String
  | [] => []
  | p :: rest => p.text :: if fs.isFile p.text = .ok true then [] else firstFileLooks fs rest

theorem looksAt_firstFile (places : List Path) :
    fs.LooksAt (firstFileLooks fs places) (firstFile fs places) := by
  induction places with
  | nil => exact looksAt_ok none
  | cons p rest ih =>
    refine (looksAt_examine Node.isFile p.text).bind fun found hfound ↦ ?_
    rw [show fs.isFile p.text = .ok found from hfound]
    cases found with
    | true => exact looksAt_ok _
    | false => exact ih

/-- The look at the directory of a cache for the name, when its entries have to be listed. -/
def entryLooks (r : AssemblyReference) (cache : String) : List String :=
  if r.keyToken.isEmpty then [((Path.parse cache).child r.name).text] else []

theorem looksAt_cachePaths (cache : String) :
    fs.LooksAt (r.entryLooks cache) (cachePaths fs r cache) := by
  unfold entryLooks cachePaths
  dsimp only
  split
  · exact (looksAt_namesIn _ _).bind_of_returns fun _ _ ↦ ⟨_, rfl⟩
  · exact looksAt_ok _

/-- The looks of a search through the caches: up to the first cache with a hit. -/
def cacheLooks (fs : FileSystem) (r : AssemblyReference) : List String → List String
  | [] => []
  | cache :: rest =>
    r.entryLooks cache ++ match r.cachePaths fs cache with
      | .error _ => []
      | .ok places =>
        firstFileLooks fs places ++ match firstFile fs places with
          | .ok none => cacheLooks fs r rest
          | _ => []

theorem looksAt_firstCached (caches : List String) :
    fs.LooksAt (r.cacheLooks fs caches) (r.firstCached fs caches) := by
  induction caches with
  | nil => exact looksAt_ok none
  | cons cache rest ih =>
    refine (looksAt_cachePaths cache).bind fun places hplaces ↦ ?_
    rw [hplaces]
    refine (looksAt_firstFile places).bind fun found hfound ↦ ?_
    rw [hfound]
    cases found with
    | some path => exact looksAt_ok _
    | none => exact ih

/-- The looks of locating a dependency. -/
def looks (fs : FileSystem) (r : AssemblyReference) (referencing : String)
    (runtimeDirectory : Option String) (caches : List String) : List String :=
  let nearby := r.nearbyPaths referencing runtimeDirectory
  firstFileLooks fs nearby ++ match firstFile fs nearby with
    | .ok none => r.cacheLooks fs caches
    | _ => []

theorem looksAt_locate (referencing : String) (runtimeDirectory : Option String)
    (caches : List String) :
    fs.LooksAt (r.looks fs referencing runtimeDirectory caches)
      (r.locate fs referencing runtimeDirectory caches).outcome := by
  refine LooksAt.attempt_bind (looksAt_firstFile _) fun found hfound ↦ ?_
  rw [show firstFile fs (r.nearbyPaths referencing runtimeDirectory) = .ok found from hfound]
  cases found with
  | some path => exact looksAt_ok _
  | none =>
    refine LooksAt.attempt_bind_of_returns (looksAt_firstCached caches) fun cached _ ↦ ?_
    cases cached with
    | some path => exact returns_pure _
    | none => exact returns_note_pure _ _

end AssemblyReference

/-! ## Core assemblies -/

open FileSystem

variable {fs : FileSystem}

namespace CoreInputs

variable {inputs : CoreInputs}

/-- The looks of locating the named dependency of the language core. -/
def dependencyLooks (fs : FileSystem) (inputs : CoreInputs) (name core : String) : List String :=
  match inputs.inspector.references core with
  | .ok rows =>
    match rows.find? (·.name = name) with
    | some row => row.looks fs core inputs.env.runtimeDirectory inputs.env.caches
    | none => []
  | _ => []

theorem looksAt_locateDependency (name core : String) :
    fs.LooksAt (inputs.dependencyLooks fs name core)
      (inputs.locateDependency fs name core).outcome := by
  refine looksAt_bind_of_ok rfl ?_
  unfold dependencyLooks
  cases inputs.inspector.references core with
  | inaccessible detail => exact looksAt_ok none
  | unreadable detail => exact looksAt_ok none
  | ok rows =>
    dsimp only
    cases rows.find? (·.name = name) with
    | none => exact looksAt_ok none
    | some row => exact AssemblyReference.looksAt_locate _ _ _

end CoreInputs

/-- The looks of a strategy. -/
def CoreStrategy.looks (fs : FileSystem) (inputs : CoreInputs) (name : String) :
    CoreStrategy → List String
  | .languageCoreDependency =>
    inputs.languageCorePath.toList.flatMap fun core ↦ inputs.dependencyLooks fs name core
  | _ => []

theorem CoreStrategy.looksAt_run (inputs : CoreInputs) (name : String) (strategy : CoreStrategy) :
    fs.LooksAt (strategy.looks fs inputs name) (strategy.run fs inputs name).outcome := by
  cases strategy with
  | defaultDirectories =>
    rw [run, outcome_findDefaultReference]
    exact looksAt_ok _
  | besideBaseRuntime =>
    rw [run, outcome_findDefaultReference]
    exact looksAt_ok _
  | languageCoreDependency =>
    rw [run, looks]
    cases inputs.languageCorePath with
    | none => exact looksAt_ok none
    | some core =>
      rw [Option.toList_some, List.flatMap_singleton]
      exact inputs.looksAt_locateDependency name core

theorem Reconciliation.looksAt_foldlM_addLookup {inputs : CoreInputs} {lookups : List CoreLookup}
    (r : Reconciliation)
    (hlookups : ∀ lookup ∈ lookups, ∃ strategy, lookup.strategies = [strategy]) :
    fs.LooksAt (lookups.flatMap fun lookup ↦
        lookup.strategies.flatMap (·.looks fs inputs lookup.name))
      (lookups.foldlM (addLookup fs inputs) r).outcome := by
  -- What the lookups before have found has no say in where the next one looks.
  induction lookups generalizing r with
  | nil => exact looksAt_ok r
  | cons lookup rest ih =>
    obtain ⟨⟨strategy, hstrategy⟩, hrest⟩ := List.forall_mem_cons.mp hlookups
    rw [List.foldlM_cons, List.flatMap_cons]
    refine LooksAt.attempt_bind ?_ fun s _ ↦ ih s hrest
    rw [addLookup, hstrategy, firstResult_singleton, List.flatMap_singleton]
    refine (strategy.looksAt_run inputs lookup.name).attempt_bind_of_returns fun found _ ↦ ?_
    cases found with
    | some path => exact returns_pure _
    | none => exact returns_note_pure _ _

/-- The looks of reconciling a set: those for the base runtime as a dependency of the language
core, when the set has the one without the other. -/
def CoreInputs.looks (fs : FileSystem) (inputs : CoreInputs) : List String :=
  match inputs.languageCorePath, inputs.baseRuntimePath with
  | some core, none => inputs.dependencyLooks fs baseRuntime core
  | _, _ => []

theorem ReferenceSet.looksAt_reconcile (set : ReferenceSet) (env : CompilerEnvironment)
    (language : Option LanguageVersion) (target : TargetFramework) (inspector : Inspector) :
    fs.LooksAt ((set.coreInputs env language target inspector).looks fs)
      (set.reconcile fs env language target inspector).outcome := by
  let inputs := set.coreInputs env language target inspector
  have hrun : fs.LooksAt (set.coreCase.lookups.flatMap fun lookup ↦
        lookup.strategies.flatMap (·.looks fs inputs lookup.name))
      (set.reconcile fs env language target inspector).outcome :=
    Reconciliation.looksAt_foldlM_addLookup _ fun _ ↦ CoreCase.exists_strategies_eq_singleton
  have htable : (set.coreCase.lookups.flatMap fun lookup ↦
      lookup.strategies.flatMap (·.looks fs inputs lookup.name)) = inputs.looks fs := by
    have hcorePath : inputs.languageCorePath = set.find? languageCore := rfl
    have hbasePath : inputs.baseRuntimePath = set.find? baseRuntime := rfl
    unfold coreCase CoreInputs.looks
    rw [hcorePath, hbasePath]
    cases hcore : set.find? languageCore <;> cases set.find? baseRuntime <;>
      simp [CoreCase.classify, CoreCase.lookups, CoreStrategy.looks, hcorePath, hcore]
  rwa [htable] at hrun

end FSharpFlags
