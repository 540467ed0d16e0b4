import FSharpFlags.Core.Reconciliation
import FSharpFlags.Proofs.LastPiece

/-!
# What a lookup of a core assembly yields

A core assembly is looked up in default directories, beside the other one, or as a dependency
through nearby directories and caches. All of these places are spelled as a directory followed by
the file name of the assembly, so whatever the strategy, a path that is found ends in that file
name. This is what ties the lookups to the search in a reference set: such a path is recognised
for its own name and for no other, and so is every stored path that has its key, unless that path
is open-ended.
-/

namespace FSharpFlags

open ReferenceSet (names)

/-- The core assemblies, in the order in which they are looked up. -/
def coreAssemblies : List String := [languageCore, baseRuntime]

/-- Whether the name of an assembly holds no separator. -/
def IsPlain (name : String) : Prop := ∀ c ∈ name.toList, isSeparator c = false

/-- Whether a path text ends in the file name of an assembly. -/
def EndsInLibrary (name path : String) : Prop :=
  Text.lastPiece path.toList = (name ++ ".dll").toList

theorem isPlain_of_all {name : String} (h : (name.toList.all fun c ↦ !isSeparator c) = true) :
    IsPlain name := by
  intro c hc
  simpa using List.all_eq_true.mp h c hc

theorem isPlain_of_mem_coreAssemblies {name : String} (h : name ∈ coreAssemblies) :
    IsPlain name := by
  have htable : ∀ name ∈ coreAssemblies, (name.toList.all fun c ↦ !isSeparator c) = true := by
    decide
  exact isPlain_of_all (htable name h)

theorem IsPlain.append_dll {name : String} (h : IsPlain name) : IsPlain (name ++ ".dll") := by
  have hdll : IsPlain ".dll" := isPlain_of_all (by decide)
  intro c hc
  rw [String.toList_append, List.mem_append] at hc
  rcases hc with hc | hc
  · exact h c hc
  · exact hdll c hc

theorem isPart_append_dll (name : String) : Path.isPart (name ++ ".dll").toList = true := by
  have hlength : 4 ≤ (name ++ ".dll").toList.length := by
    rw [String.toList_append, List.length_append]
    exact Nat.le_add_left _ _
  rw [Path.isPart, Bool.and_eq_true, decide_eq_true_eq, decide_eq_true_eq]
  constructor <;> intro h <;> rw [h] at hlength <;> simp at hlength

theorem endsInLibrary_child (p : Path) {name : String} (h : IsPlain name) :
    EndsInLibrary name (p.child (name ++ ".dll")).text :=
  p.lastPiece_child h.append_dll (isPart_append_dll name)

theorem EndsInLibrary.suffix {name path : String} (h : EndsInLibrary name path) :
    (name ++ ".dll").toList <:+ path.toList :=
  h ▸ Text.lastPiece_suffix path.toList

/-! ## Recognising what was found -/

/-- The search looks at nothing but the last piece of a path. -/
theorem names_iff {name path : String} (h : IsPlain name) :
    names name path = true ↔
      Text.caseFold (name ++ ".dll").toList <:+ Text.caseFold (Text.lastPiece path.toList)
        ∨ Text.caseFold name.toList <:+ Text.caseFold (Text.lastPiece path.toList) := by
  rw [names, Bool.or_eq_true, List.isSuffixOf_iff_suffix, List.isSuffixOf_iff_suffix]
  simp only [foldCase, String.toList_ofList]
  rw [Text.suffix_iff_suffix_lastPiece (Text.isSeparator_of_mem_caseFold h.append_dll),
    Text.suffix_iff_suffix_lastPiece (Text.isSeparator_of_mem_caseFold h),
    Text.lastPiece_caseFold]

/-- A path that ends, up to case, in the library of one core assembly stands for that one only. -/
theorem names_iff_eq_of_caseFold {m n path : String} (hm : m ∈ coreAssemblies)
    (hn : n ∈ coreAssemblies)
    (h : Text.caseFold (Text.lastPiece path.toList) = Text.caseFold (m ++ ".dll").toList) :
    names n path = true ↔ n = m := by
  have htable : ∀ m ∈ coreAssemblies, ∀ n ∈ coreAssemblies,
      (Text.caseFold (n ++ ".dll").toList <:+ Text.caseFold (m ++ ".dll").toList
        ∨ Text.caseFold n.toList <:+ Text.caseFold (m ++ ".dll").toList) ↔ n = m := by
    decide
  rw [names_iff (isPlain_of_mem_coreAssemblies hn), h]
  exact htable m hm n hn

theorem EndsInLibrary.names_iff_eq {m n path : String} (h : EndsInLibrary m path)
    (hm : m ∈ coreAssemblies) (hn : n ∈ coreAssemblies) : names n path = true ↔ n = m :=
  names_iff_eq_of_caseFold hm hn (by rw [h])

theorem EndsInLibrary.isOpenEnded_eq_false {m path : String} (h : EndsInLibrary m path)
    (hm : m ∈ coreAssemblies) : isOpenEnded path = false := by
  rw [isOpenEnded, h]
  exact (by decide : ∀ m ∈ coreAssemblies,
    [[], ['.'], ['.', '.']].contains (m ++ ".dll").toList = false) m hm

/-- An open-ended path is never taken for a core assembly. -/
theorem isOpenEnded_eq_false_of_names {n path : String} (hn : n ∈ coreAssemblies)
    (h : names n path = true) : isOpenEnded path = false := by
  have htable : ∀ n ∈ coreAssemblies, ∀ w ∈ [[], ['.'], ['.', '.']],
      ¬(Text.caseFold (n ++ ".dll").toList <:+ Text.caseFold w
        ∨ Text.caseFold n.toList <:+ Text.caseFold w) := by
    decide
  rw [← Bool.not_eq_true, isOpenEnded, List.contains_iff_mem]
  intro hw
  exact htable n hn _ hw ((names_iff (isPlain_of_mem_coreAssemblies hn)).mp h)

/-- A path with the key of a library ends in it up to case, unless the path is open-ended. So the
search takes such a path for what it takes the library for. -/
theorem EndsInLibrary.names_iff_eq_of_key_eq {m n a q : String} (ha : EndsInLibrary m a)
    (hm : m ∈ coreAssemblies) (hn : n ∈ coreAssemblies) (hkey : referenceKey q = referenceKey a)
    (hopen : isOpenEnded q = false) : names n q = true ↔ n = m := by
  have hfold : Text.caseFold (Text.lastPiece q.toList) = Text.caseFold (m ++ ".dll").toList := by
    rw [← lastPiece_referenceKey hopen, hkey,
      lastPiece_referenceKey (ha.isOpenEnded_eq_false hm), ha]
  exact names_iff_eq_of_caseFold hm hn hfold

/-- Libraries of different core assemblies have different keys. -/
theorem EndsInLibrary.referenceKey_ne {m n a b : String} (ha : EndsInLibrary m a)
    (hb : EndsInLibrary n b) (hm : m ∈ coreAssemblies) (hn : n ∈ coreAssemblies) (hne : m ≠ n) :
    referenceKey a ≠ referenceKey b := by
  intro hkey
  have hiff := hb.names_iff_eq_of_key_eq hn hm hkey (ha.isOpenEnded_eq_false hm)
  exact hne (hiff.mp ((ha.names_iff_eq hm hm).mpr rfl))

/-! ## Places -/

theorem endsInLibrary_of_findAssembly {fs : FileSystem} {directories : List String}
    {name path : String} (hname : IsPlain name)
    (h : findAssembly fs directories name = some path) : EndsInLibrary name path := by
  obtain ⟨directory, -, rfl⟩ := List.mem_map.mp (List.mem_of_find?_eq_some h)
  exact endsInLibrary_child _ hname

theorem outcome_findDefaultReference (fs : FileSystem) (env : CompilerEnvironment)
    (language : Option LanguageVersion) (target : TargetFramework) (name : String)
    (extra : Option String) :
    (findDefaultReference fs env language target name extra).outcome
      = .ok (findAssembly fs (extra.toList ++ env.defaultDirectories language target) name) := by
  unfold findDefaultReference
  cases h : findAssembly fs (extra.toList ++ env.defaultDirectories language target) name with
  | some path => simp only [h, Attempt.outcome_pure]
  | none =>
    simp only [h]
    rfl

namespace AssemblyReference

variable {fs : FileSystem} {r : AssemblyReference}

/-- Whether all of the places are spelled as a directory and the file name of the assembly. -/
def AreLibraryPlaces (r : AssemblyReference) (places : List Path) : Prop :=
  ∀ p ∈ places, ∃ directory : Path, p = directory.child r.fileName

theorem areLibraryPlaces_nearbyPaths (r : AssemblyReference) (referencing : String)
    (runtimeDirectory : Option String) :
    r.AreLibraryPlaces (r.nearbyPaths referencing runtimeDirectory) := by
  intro p hp
  unfold nearbyPaths at hp
  split at hp
  · obtain rfl := List.mem_singleton.mp hp
    exact ⟨_, rfl⟩
  · simp only [List.mem_cons, List.mem_map] at hp
    rcases hp with rfl | rfl | ⟨sibling, -, rfl⟩ <;> exact ⟨_, rfl⟩

theorem areLibraryPlaces_of_cachePaths {cache : String} {places : List Path}
    (h : r.cachePaths fs cache = .ok places) : r.AreLibraryPlaces places := by
  intro p hp
  unfold cachePaths at h
  split at h
  · obtain ⟨entries, -, h⟩ := bind_eq_ok_iff.mp h
    obtain rfl := Except.ok.inj h
    obtain ⟨entry, -, rfl⟩ := List.mem_map.mp hp
    exact ⟨_, rfl⟩
  · obtain rfl := Except.ok.inj h
    obtain rfl := List.mem_singleton.mp hp
    exact ⟨_, rfl⟩

theorem exists_of_firstFile {places : List Path} {path : String}
    (h : firstFile fs places = .ok (some path)) : ∃ p ∈ places, p.text = path := by
  induction places with
  | nil => cases h
  | cons p rest ih =>
    obtain ⟨isFile, -, h⟩ := bind_eq_ok_iff.mp h
    split at h
    · exact ⟨p, List.mem_cons_self, Option.some.inj (Except.ok.inj h)⟩
    · obtain ⟨q, hq, htext⟩ := ih h
      exact ⟨q, List.mem_cons_of_mem p hq, htext⟩

theorem endsInLibrary_of_firstFile {places : List Path} {path : String} (hname : IsPlain r.name)
    (hplaces : r.AreLibraryPlaces places) (h : firstFile fs places = .ok (some path)) :
    EndsInLibrary r.name path := by
  obtain ⟨p, hp, rfl⟩ := exists_of_firstFile h
  obtain ⟨directory, rfl⟩ := hplaces p hp
  exact endsInLibrary_child directory hname

theorem endsInLibrary_of_firstCached {caches : List String} {path : String}
    (hname : IsPlain r.name) (h : r.firstCached fs caches = .ok (some path)) :
    EndsInLibrary r.name path := by
  induction caches with
  | nil => cases h
  | cons cache rest ih =>
    obtain ⟨places, hplaces, h⟩ := bind_eq_ok_iff.mp h
    obtain ⟨first, hfirst, h⟩ := bind_eq_ok_iff.mp h
    cases first with
    | some found =>
      obtain rfl := Option.some.inj (Except.ok.inj h)
      exact endsInLibrary_of_firstFile hname (areLibraryPlaces_of_cachePaths hplaces) hfirst
    | none => exact ih h

/-- **Dependencies** are found in places that end in their own library. -/
theorem endsInLibrary_of_locate {referencing path : String} {runtimeDirectory : Option String}
    {caches : List String} (hname : IsPlain r.name)
    (h : (r.locate fs referencing runtimeDirectory caches).outcome = .ok (some path)) :
    EndsInLibrary r.name path := by
  obtain ⟨near, hnear, h⟩ := Attempt.outcome_bind_eq_ok_iff.mp h
  cases near with
  | some found =>
    obtain rfl := Option.some.inj (Except.ok.inj h)
    exact endsInLibrary_of_firstFile hname (areLibraryPlaces_nearbyPaths r _ _) hnear
  | none =>
    obtain ⟨cached, hcached, h⟩ := Attempt.outcome_bind_eq_ok_iff.mp h
    cases cached with
    | some found =>
      obtain rfl := Option.some.inj (Except.ok.inj h)
      exact endsInLibrary_of_firstCached hname hcached
    | none =>
      obtain ⟨_, -, h⟩ := Attempt.outcome_bind_eq_ok_iff.mp h
      cases h

end AssemblyReference

/-! ## Strategies -/

variable {fs : FileSystem} {inputs : CoreInputs} {name path : String}

theorem CoreInputs.endsInLibrary_of_locateDependency {core : String} (hname : IsPlain name)
    (h : (inputs.locateDependency fs name core).outcome = .ok (some path)) :
    EndsInLibrary name path := by
  obtain ⟨reading, -, hanswer⟩ := Attempt.outcome_bind_eq_ok_iff.mp h
  cases reading with
  | ok rows =>
    dsimp only at hanswer
    cases hrow : rows.find? (·.name = name) with
    | some row =>
      rw [hrow] at hanswer
      obtain rfl : row.name = name := by simpa using List.find?_some hrow
      exact AssemblyReference.endsInLibrary_of_locate hname hanswer
    | none =>
      rw [hrow] at hanswer
      cases hanswer
  | inaccessible detail =>
    obtain ⟨_, -, hnone⟩ := Attempt.outcome_bind_eq_ok_iff.mp hanswer
    cases hnone
  | unreadable detail =>
    obtain ⟨_, -, hnone⟩ := Attempt.outcome_bind_eq_ok_iff.mp hanswer
    cases hnone

theorem CoreStrategy.endsInLibrary_of_run {strategy : CoreStrategy} (hname : IsPlain name)
    (h : (strategy.run fs inputs name).outcome = .ok (some path)) : EndsInLibrary name path := by
  cases strategy with
  | defaultDirectories =>
    rw [run, outcome_findDefaultReference] at h
    exact endsInLibrary_of_findAssembly hname (Except.ok.inj h)
  | besideBaseRuntime =>
    rw [run, outcome_findDefaultReference] at h
    exact endsInLibrary_of_findAssembly hname (Except.ok.inj h)
  | languageCoreDependency =>
    cases hcore : inputs.languageCorePath with
    | none =>
      rw [run, hcore] at h
      cases h
    | some core =>
      rw [run, hcore] at h
      exact CoreInputs.endsInLibrary_of_locateDependency hname h

/-- **Every lookup** that finds something finds a path that ends in the library asked for. -/
theorem endsInLibrary_of_firstResult {strategies : List CoreStrategy} (hname : IsPlain name)
    (h : (firstResult fs inputs name strategies).outcome = .ok (some path)) :
    EndsInLibrary name path := by
  induction strategies with
  | nil => cases h
  | cons strategy rest ih =>
    obtain ⟨found, hfound, h⟩ := Attempt.outcome_bind_eq_ok_iff.mp h
    cases found with
    | some q =>
      obtain rfl := Option.some.inj (Except.ok.inj h)
      exact CoreStrategy.endsInLibrary_of_run hname hfound
    | none => exact ih h

end FSharpFlags
