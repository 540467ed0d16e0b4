import FSharpFlags.Proofs.ReferenceList

/-!
# Facades and the search for the core assemblies

The facades of a runtime are the last candidates of a project, and those for core assemblies are
left out before they get there. Two separate tests are at work: the one that leaves facades out
compares the end of a path as it is written, while the search through the reference set ignores
case and does not insist on the file suffix. Whatever passes the first test and is found by the
second one keeps a core assembly from being looked up.

That is the only way in which facades can interfere. A reconciliation sees of its set nothing but
the results of two searches, and what is offered last changes a result only if the search had
none before.
-/

namespace FSharpFlags

variable {fs : FileSystem}

/-! ## What a reconciliation sees -/

namespace ReferenceSet

variable {set : ReferenceSet}

/-- Sets that the two searches do not tell apart are reconciled alike. -/
theorem reconcile_congr {set' : ReferenceSet}
    (h : ∀ name ∈ coreAssemblies, set.find? name = set'.find? name) (env : CompilerEnvironment)
    (language : Option LanguageVersion) (target : TargetFramework) (inspector : Inspector) :
    set.reconcile fs env language target inspector
      = set'.reconcile fs env language target inspector := by
  have hcore := h languageCore (by decide)
  have hbase := h baseRuntime (by decide)
  simp only [reconcile, coreCase, coreInputs, hcore, hbase]

theorem find?_eq_none_of_coreCase {name : String} (hname : name ∈ coreAssemblies)
    (h : set.coreCase = .missingBoth) : set.find? name = none := by
  have hcases : name = languageCore ∨ name = baseRuntime := by simpa [coreAssemblies] using hname
  unfold coreCase at h
  cases hcore : set.find? languageCore with
  | some path =>
    rw [hcore] at h
    cases hbase : set.find? baseRuntime <;> rw [hbase] at h <;> cases h
  | none =>
    rw [hcore] at h
    cases hbase : set.find? baseRuntime with
    | some path =>
      rw [hbase] at h
      cases h
    | none =>
      rcases hcases with rfl | rfl
      · exact hcore
      · exact hbase

/-- What is offered last and not found on its own does not change what is found. -/
theorem find?_extend_of_forall {name : String} {paths : List String}
    (h : (ofList paths).find? name = none) : (set.extend paths).find? name = set.find? name := by
  cases hset : set.find? name with
  | some path => exact find?_extend_of_find? hset paths
  | none =>
    rw [find?_eq_none_iff] at h hset ⊢
    intro q hq
    have hempty : ∀ p, empty.contains p = true → set.contains p = true := by simp [contains]
    rcases mem_or_mem_extend_of_contains hempty hq with hq | hq
    · exact hset q hq
    · exact h q hq

end ReferenceSet

/-! ## Candidates and facades -/

/-- The facades that take part in a reconciliation, when facades are needed. -/
def offeredFacades (facades : List String) : List String :=
  (facades.filter fun path ↦ !isExcludedFacade path).filter fun path ↦ !isBareLanguageCore path

namespace Project

variable {p : Project} {selection : Selection} {o : GenerationOptions}

/-- What reconciling the candidates of a project comes to, without the candidates. -/
def reconciliationOutcome (fs : FileSystem) (p : Project) (selection : Selection)
    (o : GenerationOptions) : Except Failure Reconciliation :=
  (p.reconciled fs selection o).outcome.map (·.2)

theorem reconciliationOutcome_eq (fs : FileSystem) (p : Project) (selection : Selection)
    (o : GenerationOptions) :
    p.reconciliationOutcome fs selection o
      = (p.candidateSet fs selection o.inspector).outcome.bind fun set ↦
        (set.reconcile fs o.env o.language (o.targetOf p) o.inspector).outcome := by
  rw [reconciliationOutcome, reconciled, Attempt.outcome_bind]
  cases (p.candidateSet fs selection o.inspector).outcome with
  | error failure => rfl
  | ok set =>
    simp only [Except.bind, Attempt.outcome_bind]
    cases (set.reconcile fs o.env o.language (o.targetOf p) o.inspector).outcome <;> rfl

/-- The candidates apart from the facades, and whether facades are needed. -/
def otherCandidates (fs : FileSystem) (p : Project) (selection : Selection)
    (inspector : Inspector) : Except Failure (List String × Bool) := do
  let declared ← p.collect fs selection
  let needed ← (p.needsFacades fs selection inspector).outcome
  return (declared ++ p.referencedAssemblies (p.selector selection), needed)

theorem outcome_applicableFacades_withFacades (hp : p.isPortable = false) (facades : List String)
    (inspector : Inspector) :
    ((p.withFacades fun _ ↦ .ok facades).applicableFacades fs selection inspector).outcome
      = (p.needsFacades fs selection inspector).outcome.map fun needed ↦
        if needed then facades.filter fun path ↦ !isExcludedFacade path else [] := by
  have hp' : ¬(p.withFacades fun _ ↦ .ok facades).isPortable = true := by
    rw [Bool.not_eq_true]
    exact hp
  rw [applicableFacades, if_neg hp', Attempt.outcome_bind]
  -- Whether facades are needed is never asked of the runtime that reports them.
  change (p.needsFacades fs selection inspector).outcome.bind _ = _
  cases (p.needsFacades fs selection inspector).outcome with
  | error failure => rfl
  | ok needed => cases needed <;> rfl

/-- The facades of the runtime are what a set of candidates is extended by last. -/
theorem outcome_candidateSet_withFacades (hp : p.isPortable = false) (facades : List String)
    (inspector : Inspector) :
    ((p.withFacades fun _ ↦ .ok facades).candidateSet fs selection inspector).outcome
      = (p.otherCandidates fs selection inspector).map fun c ↦
        (ReferenceSet.ofList (c.1.filter fun path ↦ !isBareLanguageCore path)).extend
          (if c.2 then offeredFacades facades else []) := by
  have hcollect : (p.withFacades fun _ ↦ .ok facades).collect fs selection
      = p.collect fs selection := rfl
  simp only [candidateSet, candidatePaths, otherCandidates, Attempt.outcome_bind,
    outcome_applicableFacades_withFacades hp, hcollect]
  cases p.collect fs selection with
  | error failure => rfl
  | ok declared =>
    cases (p.needsFacades fs selection inspector).outcome with
    | error failure => rfl
    | ok needed =>
      refine congrArg Except.ok ?_
      rw [List.filter_append, ReferenceSet.ofList, ReferenceSet.extend_append]
      cases needed <;> rfl

/-- Facades that the search does not find leave the reconciliation as it is. -/
theorem reconciliationOutcome_withFacades (hp : p.isPortable = false) {facades : List String}
    (h : ∀ name ∈ coreAssemblies,
      (ReferenceSet.ofList (offeredFacades facades)).find? name = none) :
    (p.withFacades fun _ ↦ .ok facades).reconciliationOutcome fs selection o
      = (p.withFacades fun _ ↦ .ok []).reconciliationOutcome fs selection o := by
  rw [reconciliationOutcome_eq, reconciliationOutcome_eq, outcome_candidateSet_withFacades hp,
    outcome_candidateSet_withFacades hp]
  cases p.otherCandidates fs selection o.inspector with
  | error failure => rfl
  | ok c =>
    -- Both sets extend the set of the other candidates, which decides what is found.
    obtain ⟨others, needed⟩ := c
    refine congrArg Attempt.outcome (ReferenceSet.reconcile_congr ?_ _ _ _ _)
    intro name hname
    cases needed with
    | true => exact ReferenceSet.find?_extend_of_forall (h name hname)
    | false => rfl

end Project

/-! ## A project with nothing but facades -/

/-- A project that uses a portable project and has no references of its own. -/
def portableUser : Project :=
  { hostedProject [] with
    referencedProjects := fun _ ↦ [{ (hostedProject []).toProjectOutside with
      name := "Lib"
      framework := { identifier := Moniker.desktop, version := "4.5", profile := "Profile7" } }] }

/-- Facades that leave the reconciliation of such a project as it is are not found. -/
theorem find?_eq_none_of_reconciliationOutcome_eq {facades : List String}
    (h : (portableUser.withFacades fun _ ↦ .ok facades).reconciliationOutcome coreLibraries {}
        runtimeOptions
      = (portableUser.withFacades fun _ ↦ .ok []).reconciliationOutcome coreLibraries {}
        runtimeOptions) :
    ∀ name ∈ coreAssemblies, (ReferenceSet.ofList (offeredFacades facades)).find? name = none := by
  have hnothing : (portableUser.withFacades fun _ ↦ .ok []).reconciliationOutcome coreLibraries {}
      runtimeOptions = .ok ⟨.missingBoth, ["/rt/FSharp.Core.dll", "/rt/mscorlib.dll"], []⟩ := by
    decide +kernel
  rw [hnothing, Project.reconciliationOutcome_eq,
    Project.outcome_candidateSet_withFacades rfl] at h
  have hcase : CoreCase.missingBoth = (ReferenceSet.ofList (offeredFacades facades)).coreCase :=
    ReferenceSet.case_of_reconcile h
  intro name hname
  exact ReferenceSet.find?_eq_none_of_coreCase hname hcase.symm

/-! ## When facades interfere -/

/-- **Facades do not interfere with reconciliation** exactly when the search finds no core
assembly among those that take part. -/
theorem forall_reconciliationOutcome_withFacades_iff (facades : List String) :
    (∀ (fs : FileSystem) (p : Project) (selection : Selection) (o : GenerationOptions),
        p.isPortable = false →
          (p.withFacades fun _ ↦ .ok facades).reconciliationOutcome fs selection o
            = (p.withFacades fun _ ↦ .ok []).reconciliationOutcome fs selection o)
      ↔ ∀ name ∈ coreAssemblies,
          (ReferenceSet.ofList (offeredFacades facades)).find? name = none := by
  constructor
  · intro h
    exact find?_eq_none_of_reconciliationOutcome_eq
      (h coreLibraries portableUser {} runtimeOptions rfl)
  · intro h fs p selection o hp
    exact Project.reconciliationOutcome_withFacades hp h

/-- A facade that spells the base runtime with a capital letter is found in its place. -/
theorem reconciliationOutcome_capitalFacade :
    (portableUser.withFacades fun _ ↦ .ok ["/facades/Mscorlib.dll"]).reconciliationOutcome
        coreLibraries {} runtimeOptions
      ≠ (portableUser.withFacades fun _ ↦ .ok []).reconciliationOutcome coreLibraries {}
        runtimeOptions := by
  decide +kernel

end FSharpFlags
