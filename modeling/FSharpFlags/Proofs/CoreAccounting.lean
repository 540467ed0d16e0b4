import FSharpFlags.Proofs.CoreLookup
import FSharpFlags.Proofs.FirstOccurrence

/-!
# Accounting for the core assemblies

Reconciling a reference set leaves nothing open about the two core assemblies: each of them was
there, has been found once, or is named as unresolved and warned about, and nothing else happens.
Putting the found paths in front of the set then makes the search succeed exactly for what is not
unresolved.

The proof runs over an arbitrary list of lookups first. One lookup adds the path it answers with or
its own name, together with a warning, so a run over a list does so for each entry in order. Only
afterwards is the decision table consulted, and all that is needed of it is that a case looks up
the missing assemblies, in order and each once.
-/

namespace FSharpFlags

/-! ## Events -/

/-- Whether an event is a query to the inspector. -/
def Event.isInspection : Event → Bool
  | .askedReferences _ | .askedFramework _ => true
  | _ => false

namespace Attempt

variable {α β : Type}

/-- Whether an attempt neither warns nor asks the inspector. -/
def IsQuiet (x : Attempt α) : Prop :=
  ∀ e ∈ x.events, e.isWarning = false ∧ e.isInspection = false

theorem isQuiet_pure (a : α) : IsQuiet (pure a) := by
  rintro e ⟨⟩

theorem isQuiet_ofExcept (x : Except Failure α) : IsQuiet (ofExcept x) := by
  rintro e ⟨⟩

theorem isQuiet_note {e : Event} (hwarning : e.isWarning = false)
    (hinspection : e.isInspection = false) : IsQuiet (note e) := by
  intro e' he'
  obtain rfl := List.mem_singleton.mp he'
  exact ⟨hwarning, hinspection⟩

theorem IsQuiet.bind {x : Attempt α} {f : α → Attempt β} (hx : x.IsQuiet)
    (hf : ∀ a, (f a).IsQuiet) : (x >>= f).IsQuiet := by
  cases hoc : x.outcome with
  | error failure =>
    rw [bind_of_error hoc]
    exact hx
  | ok a =>
    rw [bind_of_ok hoc]
    intro e he
    rcases List.mem_append.mp he with he | he
    · exact hx e he
    · exact hf a e he

theorem IsQuiet.filter_isWarning {x : Attempt α} (hx : x.IsQuiet) :
    x.events.filter Event.isWarning = [] :=
  List.filter_eq_nil_iff.mpr fun e he ↦ by simp [hx e he]

theorem IsQuiet.filter_isInspection {x : Attempt α} (hx : x.IsQuiet) :
    x.events.filter Event.isInspection = [] :=
  List.filter_eq_nil_iff.mpr fun e he ↦ by simp [hx e he]

end Attempt

open Attempt (isQuiet_pure isQuiet_ofExcept isQuiet_note)

variable {fs : FileSystem} {inputs : CoreInputs}

theorem isQuiet_findDefaultReference (env : CompilerEnvironment)
    (language : Option LanguageVersion) (target : TargetFramework) (name : String)
    (extra : Option String) :
    (findDefaultReference fs env language target name extra).IsQuiet := by
  unfold findDefaultReference
  dsimp only
  split
  · exact isQuiet_pure _
  · exact (isQuiet_note rfl rfl).bind fun _ ↦ isQuiet_pure _

theorem AssemblyReference.isQuiet_locate (r : AssemblyReference) (referencing : String)
    (runtimeDirectory : Option String) (caches : List String) :
    (r.locate fs referencing runtimeDirectory caches).IsQuiet := by
  refine (isQuiet_ofExcept _).bind fun near ↦ ?_
  cases near with
  | some path => exact isQuiet_pure _
  | none =>
    refine (isQuiet_ofExcept _).bind fun cached ↦ ?_
    cases cached with
    | some path => exact isQuiet_pure _
    | none => exact (isQuiet_note rfl rfl).bind fun _ ↦ isQuiet_pure _

namespace CoreStrategy

/-- The queries that a strategy puts to the inspector. -/
def inspections (inputs : CoreInputs) : CoreStrategy → List Event
  | .languageCoreDependency => inputs.languageCorePath.toList.map .askedReferences
  | _ => []

/-- Asking for a dependency is one query followed by quiet work. -/
theorem exists_events_locateDependency (fs : FileSystem) (inputs : CoreInputs)
    (name core : String) :
    ∃ rest : Attempt (Option String), rest.IsQuiet
      ∧ (inputs.locateDependency fs name core).events = .askedReferences core :: rest.events := by
  refine ⟨_, ?_, rfl⟩
  cases inputs.inspector.references core with
  | ok rows =>
    dsimp only
    cases rows.find? (·.name = name) with
    | some row => exact row.isQuiet_locate _ _ _
    | none => exact isQuiet_pure _
  | inaccessible detail => exact (isQuiet_note rfl rfl).bind fun _ ↦ isQuiet_pure _
  | unreadable detail => exact (isQuiet_note rfl rfl).bind fun _ ↦ isQuiet_pure _

theorem filter_isWarning_run (strategy : CoreStrategy) (name : String) :
    (strategy.run fs inputs name).events.filter Event.isWarning = [] := by
  cases strategy with
  | defaultDirectories => exact (isQuiet_findDefaultReference _ _ _ _ _).filter_isWarning
  | besideBaseRuntime => exact (isQuiet_findDefaultReference _ _ _ _ _).filter_isWarning
  | languageCoreDependency =>
    rw [run]
    cases inputs.languageCorePath with
    | none => rfl
    | some core =>
      obtain ⟨rest, hquiet, hevents⟩ := exists_events_locateDependency fs inputs name core
      dsimp only
      rw [hevents, List.filter_cons_of_neg Bool.false_ne_true, hquiet.filter_isWarning]

theorem filter_isInspection_run (strategy : CoreStrategy) (name : String) :
    (strategy.run fs inputs name).events.filter Event.isInspection
      = strategy.inspections inputs := by
  cases strategy with
  | defaultDirectories => exact (isQuiet_findDefaultReference _ _ _ _ _).filter_isInspection
  | besideBaseRuntime => exact (isQuiet_findDefaultReference _ _ _ _ _).filter_isInspection
  | languageCoreDependency =>
    rw [run, inspections]
    cases inputs.languageCorePath with
    | none => rfl
    | some core =>
      obtain ⟨rest, hquiet, hevents⟩ := exists_events_locateDependency fs inputs name core
      dsimp only
      rw [hevents, List.filter_cons_of_pos rfl, hquiet.filter_isInspection]
      rfl

end CoreStrategy

/-! ## One lookup -/

theorem firstResult_singleton (name : String) (strategy : CoreStrategy) :
    firstResult fs inputs name [strategy] = strategy.run fs inputs name := by
  rw [firstResult]
  refine (bind_congr fun found ↦ ?_).trans (bind_pure _)
  cases found <;> rfl

namespace CoreLookup

/-- The attempt that a lookup makes. -/
def find (fs : FileSystem) (inputs : CoreInputs) (lookup : CoreLookup) :
    Attempt (Option String) :=
  firstResult fs inputs lookup.name lookup.strategies

/-- What a lookup answers with, when it returns. -/
def answer (fs : FileSystem) (inputs : CoreInputs) (lookup : CoreLookup) : Option String :=
  match (lookup.find fs inputs).outcome with
  | .ok found => found
  | .error _ => none

/-- The events of a lookup and of the warning when it has no answer. -/
def trace (fs : FileSystem) (inputs : CoreInputs) (lookup : CoreLookup) : List Event :=
  (lookup.find fs inputs).events
    ++ if (lookup.answer fs inputs).isNone then [.coreUnresolved lookup.name] else []

end CoreLookup

namespace Reconciliation

/-- The reconciliation after a lookup. -/
def record (r : Reconciliation) (name : String) : Option String → Reconciliation
  | some path => { r with added := r.added ++ [path] }
  | none => { r with unresolved := r.unresolved ++ [name] }

theorem case_record (r : Reconciliation) (name : String) (answer : Option String) :
    (r.record name answer).case = r.case := by
  cases answer <;> rfl

theorem addLookup_of_ok {r r' : Reconciliation} {lookup : CoreLookup}
    (h : (r.addLookup fs inputs lookup).outcome = .ok r') :
    (lookup.find fs inputs).outcome = .ok (lookup.answer fs inputs)
      ∧ r' = r.record lookup.name (lookup.answer fs inputs)
      ∧ (r.addLookup fs inputs lookup).events = lookup.trace fs inputs := by
  obtain ⟨found, hfound, hrest⟩ := Attempt.outcome_bind_eq_ok_iff.mp h
  have hanswer : lookup.answer fs inputs = found := by
    rw [CoreLookup.answer, CoreLookup.find, hfound]
  rw [CoreLookup.trace, hanswer, addLookup, Attempt.events_bind_of_ok hfound]
  cases found with
  | some path => exact ⟨hfound, (Except.ok.inj hrest).symm, rfl⟩
  | none => exact ⟨hfound, (Except.ok.inj hrest).symm, rfl⟩

/-! ## A run of lookups -/

/-- **A run of lookups** adds the answers in order, and the names of those without one. -/
theorem foldlM_addLookup_of_ok {lookups : List CoreLookup} {r r' : Reconciliation}
    (h : (lookups.foldlM (addLookup fs inputs) r).outcome = .ok r') :
    (∀ lookup ∈ lookups, (lookup.find fs inputs).outcome = .ok (lookup.answer fs inputs))
      ∧ r'.added = r.added ++ lookups.filterMap (·.answer fs inputs)
      ∧ r'.unresolved = r.unresolved
          ++ (lookups.filter fun lookup ↦ (lookup.answer fs inputs).isNone).map (·.name)
      ∧ (lookups.foldlM (addLookup fs inputs) r).events
          = lookups.flatMap (·.trace fs inputs) := by
  induction lookups generalizing r with
  | nil =>
    obtain rfl := Except.ok.inj h
    simp
  | cons lookup rest ih =>
    rw [List.foldlM_cons] at h ⊢
    obtain ⟨s, hs, hrest⟩ := Attempt.outcome_bind_eq_ok_iff.mp h
    -- The step says what this lookup adds, the induction what the rest adds to that.
    obtain ⟨hfind, hrecord, hevents⟩ := addLookup_of_ok hs
    obtain ⟨hfinds, hadded, hunresolved, htrace⟩ := ih hrest
    have hfold := Attempt.events_bind_of_ok hs fun t ↦ rest.foldlM (addLookup fs inputs) t
    rw [hfold, hevents, htrace, ← List.flatMap_cons]
    refine ⟨List.forall_mem_cons.mpr ⟨hfind, hfinds⟩, ?_, ?_, rfl⟩ <;>
      cases hanswer : lookup.answer fs inputs with
      | some path => simp [hadded, hunresolved, hrecord, hanswer, record]
      | none => simp [hadded, hunresolved, hrecord, hanswer, record]

end Reconciliation

theorem Reconciliation.case_foldlM_addLookup {lookups : List CoreLookup} {r r' : Reconciliation}
    (h : (lookups.foldlM (addLookup fs inputs) r).outcome = .ok r') : r'.case = r.case := by
  induction lookups generalizing r with
  | nil => rw [← Except.ok.inj h]
  | cons lookup rest ih =>
    rw [List.foldlM_cons] at h
    obtain ⟨s, hs, hrest⟩ := Attempt.outcome_bind_eq_ok_iff.mp h
    rw [ih hrest, (addLookup_of_ok hs).2.1, case_record]

/-! ## The decision table -/

namespace ReferenceSet

variable {set : ReferenceSet}

theorem find?_isSome_iff {name : String} :
    (set.find? name).isSome = true ↔ ∃ q ∈ set.paths, names name q = true := by
  rw [find?, List.find?_isSome]

/-- A case looks up what is missing, in order. -/
theorem map_name_lookups (set : ReferenceSet) :
    set.coreCase.lookups.map (·.name)
      = coreAssemblies.filter fun name ↦ (set.find? name).isNone := by
  rw [coreCase, coreAssemblies, List.filter_cons, List.filter_cons, List.filter_nil]
  cases set.find? languageCore <;> cases set.find? baseRuntime <;> rfl

theorem mem_lookups {lookup : CoreLookup} (h : lookup ∈ set.coreCase.lookups) :
    lookup.name ∈ coreAssemblies ∧ set.find? lookup.name = none := by
  have hmem := List.mem_map_of_mem (f := fun l : CoreLookup ↦ l.name) h
  rw [map_name_lookups, List.mem_filter, Option.isNone_iff_eq_none] at hmem
  exact hmem

theorem exists_filter_lookups {name : String} (hname : name ∈ coreAssemblies)
    (hmissing : set.find? name = none) :
    ∃ lookup, set.coreCase.lookups.filter (·.name = name) = [lookup] := by
  have hcases : name = languageCore ∨ name = baseRuntime := by simpa [coreAssemblies] using hname
  unfold coreCase
  rcases hcases with rfl | rfl
  · rw [hmissing]
    cases set.find? baseRuntime <;> exact ⟨_, rfl⟩
  · rw [hmissing]
    cases set.find? languageCore <;> exact ⟨_, rfl⟩

/-- Only the row for a missing base runtime asks the inspector. -/
theorem flatMap_inspections_lookups (set : ReferenceSet) (env : CompilerEnvironment)
    (language : Option LanguageVersion) (target : TargetFramework) (inspector : Inspector) :
    (set.coreCase.lookups.flatMap fun lookup ↦ lookup.strategies.flatMap
        (·.inspections (set.coreInputs env language target inspector)))
      = match set.find? languageCore, set.find? baseRuntime with
        | some core, none => [.askedReferences core]
        | _, _ => [] := by
  have hinputs : (set.coreInputs env language target inspector).languageCorePath
      = set.find? languageCore := rfl
  unfold coreCase
  cases hcore : set.find? languageCore <;> cases set.find? baseRuntime <;>
    simp [CoreCase.classify, CoreCase.lookups, CoreStrategy.inspections, hinputs, hcore]

end ReferenceSet

theorem CoreCase.exists_strategies_eq_singleton {case : CoreCase} {lookup : CoreLookup}
    (h : lookup ∈ case.lookups) : ∃ strategy, lookup.strategies = [strategy] := by
  cases case with
  | bothPresent => cases h
  | missingLanguageCore =>
    obtain rfl := List.mem_singleton.mp h
    exact ⟨_, rfl⟩
  | missingBaseRuntime =>
    obtain rfl := List.mem_singleton.mp h
    exact ⟨_, rfl⟩
  | missingBoth =>
    simp only [lookups, List.mem_cons, List.not_mem_nil, or_false] at h
    rcases h with rfl | rfl <;> exact ⟨_, rfl⟩

/-! ## The account -/

open ReferenceSet (names)

/-- The ways in which a core assembly can be accounted for; no two of them hold together. -/
inductive Accounted (fs : FileSystem) (inputs : CoreInputs) (set : ReferenceSet)
    (r : Reconciliation) (name : String) : Prop where
  /-- The set has it. -/
  | present (found : (set.find? name).isSome = true)
      (unanswered : r.added.filter (names name) = []) (resolved : name ∉ r.unresolved)
  /-- It is missing, and one added path is the answer to its lookup. -/
  | answered (path : String) (lookup : CoreLookup) (missing : set.find? name = none)
      (row : lookup ∈ set.coreCase.lookups ∧ lookup.name = name)
      (answer : (lookup.find fs inputs).outcome = .ok (some path))
      (only : r.added.filter (names name) = [path])
      (library : (name ++ ".dll").toList <:+ path.toList) (resolved : name ∉ r.unresolved)
  /-- It is missing, and its lookup has no answer. -/
  | unresolved (lookup : CoreLookup) (missing : set.find? name = none)
      (row : lookup ∈ set.coreCase.lookups ∧ lookup.name = name)
      (answer : (lookup.find fs inputs).outcome = .ok none)
      (unanswered : r.added.filter (names name) = []) (noted : name ∈ r.unresolved)

namespace ReferenceSet

variable {set : ReferenceSet} {env : CompilerEnvironment} {language : Option LanguageVersion}
  {target : TargetFramework} {inspector : Inspector} {r : Reconciliation}

/-- What a reconciliation holds, by the lookups of its case. -/
theorem reconcile_of_ok (h : (set.reconcile fs env language target inspector).outcome = .ok r) :
    let inputs := set.coreInputs env language target inspector
    let lookups := set.coreCase.lookups
    (∀ lookup ∈ lookups, (lookup.find fs inputs).outcome = .ok (lookup.answer fs inputs))
      ∧ r.added = lookups.filterMap (·.answer fs inputs)
      ∧ r.unresolved
          = (lookups.filter fun lookup ↦ (lookup.answer fs inputs).isNone).map (·.name)
      ∧ (set.reconcile fs env language target inspector).events
          = lookups.flatMap (·.trace fs inputs) :=
  Reconciliation.foldlM_addLookup_of_ok h

theorem case_of_reconcile (h : (set.reconcile fs env language target inspector).outcome = .ok r) :
    r.case = set.coreCase :=
  Reconciliation.case_foldlM_addLookup h

theorem endsInLibrary_of_answer {lookup : CoreLookup} {path : String}
    (h : (set.reconcile fs env language target inspector).outcome = .ok r)
    (hlookup : lookup ∈ set.coreCase.lookups)
    (hanswer : lookup.answer fs (set.coreInputs env language target inspector) = some path) :
    EndsInLibrary lookup.name path := by
  have hfind := (reconcile_of_ok h).1 lookup hlookup
  rw [hanswer] at hfind
  exact endsInLibrary_of_firstResult
    (isPlain_of_mem_coreAssemblies (mem_lookups hlookup).1) hfind

/-- An added path ends in the library of a core assembly that was missing. -/
theorem exists_endsInLibrary_of_mem_added {path : String}
    (h : (set.reconcile fs env language target inspector).outcome = .ok r)
    (hpath : path ∈ r.added) :
    ∃ name ∈ coreAssemblies, set.find? name = none ∧ EndsInLibrary name path := by
  rw [(reconcile_of_ok h).2.1] at hpath
  obtain ⟨lookup, hlookup, hanswer⟩ := List.mem_filterMap.mp hpath
  obtain ⟨hcore, hmissing⟩ := mem_lookups hlookup
  exact ⟨lookup.name, hcore, hmissing, endsInLibrary_of_answer h hlookup hanswer⟩

/-- The search recognises among the added paths the answers of its own lookups. -/
theorem filter_names_added {name : String} (hname : name ∈ coreAssemblies)
    (h : (set.reconcile fs env language target inspector).outcome = .ok r) :
    r.added.filter (names name) = (set.coreCase.lookups.filter (·.name = name)).filterMap
      (·.answer fs (set.coreInputs env language target inspector)) := by
  rw [(reconcile_of_ok h).2.1, List.filter_filterMap, List.filterMap_filter]
  refine List.filterMap_congr fun lookup hlookup ↦ ?_
  cases hanswer : lookup.answer fs (set.coreInputs env language target inspector) with
  | none => simp
  | some path =>
    have hends := endsInLibrary_of_answer h hlookup hanswer
    have hiff := hends.names_iff_eq (mem_lookups hlookup).1 hname
    by_cases heq : lookup.name = name
    · simp [heq, hiff.mpr heq.symm]
    · simp [heq, (hiff.not.mpr fun h ↦ heq h.symm : ¬names name path = true)]

theorem mem_unresolved_iff {name : String}
    (h : (set.reconcile fs env language target inspector).outcome = .ok r) :
    name ∈ r.unresolved ↔ ∃ lookup ∈ set.coreCase.lookups, lookup.name = name
      ∧ lookup.answer fs (set.coreInputs env language target inspector) = none := by
  rw [(reconcile_of_ok h).2.2.1]
  simp only [List.mem_map, List.mem_filter, Option.isNone_iff_eq_none]
  exact ⟨fun ⟨l, ⟨hl, hnone⟩, heq⟩ ↦ ⟨l, hl, heq, hnone⟩,
    fun ⟨l, hl, heq, hnone⟩ ↦ ⟨l, ⟨hl, hnone⟩, heq⟩⟩

theorem unresolved_sublist
    (h : (set.reconcile fs env language target inspector).outcome = .ok r) :
    r.unresolved.Sublist coreAssemblies := by
  rw [(reconcile_of_ok h).2.2.1]
  refine (List.filter_sublist.map _).trans ?_
  rw [map_name_lookups]
  exact List.filter_sublist

/-- **Every core assembly** is accounted for. -/
theorem accounted_of_mem {name : String} (hname : name ∈ coreAssemblies)
    (h : (set.reconcile fs env language target inspector).outcome = .ok r) :
    Accounted fs (set.coreInputs env language target inspector) set r name := by
  have hfilter := filter_names_added hname h
  by_cases hmissing : set.find? name = none
  · obtain ⟨lookup, hlookup⟩ := exists_filter_lookups hname hmissing
    have hrow : lookup ∈ set.coreCase.lookups ∧ lookup.name = name := by
      have hmem : lookup ∈ set.coreCase.lookups.filter (·.name = name) := by
        rw [hlookup]
        exact List.mem_singleton_self lookup
      simpa using hmem
    have hfind := (reconcile_of_ok h).1 lookup hrow.1
    rw [hlookup] at hfilter
    cases hanswer : lookup.answer fs (set.coreInputs env language target inspector) with
    | some path =>
      rw [hanswer] at hfind
      refine .answered path lookup hmissing hrow hfind (by simpa [hanswer] using hfilter) ?_ ?_
      · exact hrow.2 ▸ (endsInLibrary_of_answer h hrow.1 hanswer).suffix
      · rw [mem_unresolved_iff h]
        rintro ⟨other, hother, heq, hnone⟩
        -- The decision table has one row for the name, so the other lookup is this one.
        have hmem : other ∈ set.coreCase.lookups.filter (·.name = name) := by simp [hother, heq]
        rw [hlookup, List.mem_singleton] at hmem
        rw [hmem, hanswer] at hnone
        cases hnone
    | none =>
      rw [hanswer] at hfind
      refine .unresolved lookup hmissing hrow hfind (by simpa [hanswer] using hfilter) ?_
      exact (mem_unresolved_iff h).mpr ⟨lookup, hrow.1, hrow.2, hanswer⟩
  · have hnone : set.coreCase.lookups.filter (·.name = name) = [] := by
      rw [List.filter_eq_nil_iff]
      intro lookup hlookup heq
      rw [decide_eq_true_eq] at heq
      exact hmissing (heq ▸ (mem_lookups hlookup).2)
    refine .present (Option.isSome_iff_ne_none.mpr hmissing) (by simpa [hnone] using hfilter) ?_
    rw [mem_unresolved_iff h]
    rintro ⟨lookup, hlookup, heq, -⟩
    exact hmissing (heq ▸ (mem_lookups hlookup).2)

/-! ## Searching the result -/

/-- A path of the set that an added path displaces is not one the search would have found. -/
theorem names_eq_false_of_displaced {name path q : String} (hname : name ∈ coreAssemblies)
    (h : (set.reconcile fs env language target inspector).outcome = .ok r)
    (hq : q ∈ r.added) (hpresent : (set.find? name).isSome = true)
    (hkey : referenceKey path = referenceKey q) : names name path = false := by
  obtain ⟨m, hm, hmissing, hends⟩ := exists_endsInLibrary_of_mem_added h hq
  rw [← Bool.not_eq_true]
  intro hnames
  have hopen := isOpenEnded_eq_false_of_names hname hnames
  obtain rfl := (hends.names_iff_eq_of_key_eq hm hname hkey hopen).mp hnames
  rw [hmissing] at hpresent
  cases hpresent

/-- With the added paths in front, the search finds what is not unresolved. -/
theorem find?_added_append_isSome_iff {name : String} (hname : name ∈ coreAssemblies)
    (h : (set.reconcile fs env language target inspector).outcome = .ok r) :
    ((ofList (r.added ++ set.paths)).find? name).isSome = true ↔ name ∉ r.unresolved := by
  rw [find?_isSome_iff]
  cases accounted_of_mem hname h with
  | present hfound _ hresolved =>
    refine iff_of_true ?_ hresolved
    obtain ⟨path, hpath, hnames⟩ := find?_isSome_iff.mp hfound
    have hcontains := contains_ofList_iff.mpr ⟨path, List.mem_append_right r.added hpath, rfl⟩
    obtain ⟨q, hq, hkey⟩ := contains_iff.mp hcontains
    rcases List.mem_append.mp (mem_of_mem_ofList hq) with hadded | hset
    · rw [names_eq_false_of_displaced hname h hadded hfound hkey.symm] at hnames
      cases hnames
    · obtain rfl := eq_of_referenceKey_eq hset hpath hkey
      exact ⟨q, hq, hnames⟩
  | answered path lookup _ row _ only _ hresolved =>
    refine iff_of_true ?_ hresolved
    have hpath : path ∈ r.added.filter (names name) := by
      rw [only]
      exact List.mem_singleton_self path
    obtain ⟨hadded, hnames⟩ := List.mem_filter.mp hpath
    -- The first added path with the key of the answer is in front, whatever the set holds.
    have hcontains : (ofList r.added).contains path = true :=
      contains_ofList_iff.mpr ⟨path, hadded, rfl⟩
    obtain ⟨q, hq, hkey⟩ := contains_iff.mp hcontains
    obtain ⟨m, hm, _, hends⟩ := exists_endsInLibrary_of_mem_added h (mem_of_mem_ofList hq)
    have hopen := isOpenEnded_eq_false_of_names hname hnames
    obtain rfl := (hends.names_iff_eq_of_key_eq hm hname hkey.symm hopen).mp hnames
    refine ⟨q, ?_, (hends.names_iff_eq hm hm).mpr rfl⟩
    rw [ofList, extend_append]
    exact (paths_prefix_extend _ set.paths).subset hq
  | unresolved lookup missing _ _ unanswered noted =>
    refine iff_of_false ?_ (not_not_intro noted)
    rintro ⟨q, hq, hnames⟩
    rcases List.mem_append.mp (mem_of_mem_ofList hq) with hadded | hset
    · have hmem := List.mem_filter.mpr ⟨hadded, hnames⟩
      rw [unanswered] at hmem
      cases hmem
    · have hfound := find?_isSome_iff.mpr ⟨q, hset, hnames⟩
      rw [missing] at hfound
      cases hfound

/-! ## What is logged and asked -/

theorem filter_trace {lookup : CoreLookup} (hlookup : lookup ∈ set.coreCase.lookups)
    (inputs : CoreInputs) :
    (lookup.trace fs inputs).filter Event.isWarning
        = (if (lookup.answer fs inputs).isNone then [.coreUnresolved lookup.name] else [])
      ∧ (lookup.trace fs inputs).filter Event.isInspection
        = lookup.strategies.flatMap (·.inspections inputs) := by
  obtain ⟨strategy, hstrategy⟩ := CoreCase.exists_strategies_eq_singleton hlookup
  have hfind : lookup.find fs inputs = strategy.run fs inputs lookup.name := by
    rw [CoreLookup.find, hstrategy, firstResult_singleton]
  rw [CoreLookup.trace, hfind, List.filter_append, List.filter_append,
    CoreStrategy.filter_isWarning_run, CoreStrategy.filter_isInspection_run, hstrategy]
  cases (lookup.answer fs inputs).isNone <;>
    simp [Event.isWarning, Event.level?, Event.isInspection]

theorem filter_isWarning_reconcile
    (h : (set.reconcile fs env language target inspector).outcome = .ok r) :
    (set.reconcile fs env language target inspector).events.filter Event.isWarning
      = r.unresolved.map .coreUnresolved := by
  obtain ⟨-, -, hunresolved, hevents⟩ := reconcile_of_ok h
  rw [hevents, hunresolved, List.filter_flatMap,
    List.flatMap_congr fun lookup hlookup ↦ (filter_trace hlookup _).1]
  generalize set.coreCase.lookups = lookups
  induction lookups with
  | nil => rfl
  | cons lookup rest ih =>
    rw [List.flatMap_cons, ih, List.filter_cons]
    cases (lookup.answer fs (set.coreInputs env language target inspector)).isNone <;> rfl

theorem filter_isInspection_reconcile
    (h : (set.reconcile fs env language target inspector).outcome = .ok r) :
    (set.reconcile fs env language target inspector).events.filter Event.isInspection
      = match set.find? languageCore, set.find? baseRuntime with
        | some core, none => [.askedReferences core]
        | _, _ => [] := by
  rw [(reconcile_of_ok h).2.2.2, List.filter_flatMap,
    ← flatMap_inspections_lookups set env language target inspector]
  exact List.flatMap_congr fun lookup hlookup ↦ (filter_trace hlookup _).2

/-! ## The whole account -/

/-- **A reconciliation that returns accounts for the core assemblies** and for nothing else. The
warnings are those of the unresolved names, in the order in which the assemblies are looked up,
and the inspector is asked once when only the base runtime is missing and otherwise never. -/
theorem reconcile_accounts
    (h : (set.reconcile fs env language target inspector).outcome = .ok r) :
    (∀ name ∈ coreAssemblies,
        Accounted fs (set.coreInputs env language target inspector) set r name)
      ∧ (∀ path ∈ r.added, ∃ name ∈ coreAssemblies,
          set.find? name = none ∧ names name path = true)
      ∧ r.unresolved.Sublist coreAssemblies
      ∧ ((set.reconcile fs env language target inspector).events.filter Event.isWarning).map
            Event.message
          = (r.unresolved.map fun name ↦
            "Resolution: Assembly resolution failed when trying to find default reference for: "
              ++ name)
      ∧ (∀ name ∈ coreAssemblies,
          ((ofList (r.added ++ set.paths)).find? name).isSome = true ↔ name ∉ r.unresolved)
      ∧ (set.reconcile fs env language target inspector).events.filter Event.isInspection
          = match set.find? languageCore, set.find? baseRuntime with
            | some core, none => [.askedReferences core]
            | _, _ => [] := by
  refine ⟨fun name hname ↦ accounted_of_mem hname h, fun path hpath ↦ ?_, unresolved_sublist h,
    ?_, fun name hname ↦ find?_added_append_isSome_iff hname h, filter_isInspection_reconcile h⟩
  · obtain ⟨name, hname, hmissing, hends⟩ := exists_endsInLibrary_of_mem_added h hpath
    exact ⟨name, hname, hmissing, (hends.names_iff_eq hname hname).mpr rfl⟩
  · rw [filter_isWarning_reconcile h, List.map_map]
    rfl

end ReferenceSet

/-! ### An instance -/

/-- A file system with the base runtime and nothing else. -/
def runtimeOnly : FileSystem where
  root := .directory [("rt", .directory [("mscorlib.dll", .file .empty false)] false)] false
  currentDirectory := "/"

/-- An inspector to which every assembly refers to the base runtime and to nothing else. -/
def referringToRuntime : Inspector where
  references _ := .ok [{ name := baseRuntime }]
  framework _ := .ok none

/-- The base runtime is found as what the language core refers to. -/
theorem reconcile_accounts_beside_languageCore :
    ((ReferenceSet.ofList ["/rt/FSharp.Core.dll"]).reconcile runtimeOnly {} none .net45
        referringToRuntime).outcome = .ok ⟨.missingBaseRuntime, ["/rt/mscorlib.dll"], []⟩
      ∧ ((ReferenceSet.ofList ["/rt/FSharp.Core.dll"]).reconcile runtimeOnly {} none .net45
        referringToRuntime).events.filter Event.isInspection
          = [.askedReferences "/rt/FSharp.Core.dll"] := by
  have h : ((ReferenceSet.ofList ["/rt/FSharp.Core.dll"]).reconcile runtimeOnly {} none .net45
      referringToRuntime).outcome = .ok ⟨.missingBaseRuntime, ["/rt/mscorlib.dll"], []⟩ := by rfl
  exact ⟨h, (ReferenceSet.reconcile_accounts h).2.2.2.2.2⟩

end FSharpFlags
