import FSharpFlags.Proofs.ReferenceList
import FSharpFlags.Proofs.Refusal

/-!
# When flag assembly returns

Hardly anything that goes into the flags of a project can fail. Inspecting an assembly and
splitting the extra flags always return, a default directory that cannot be entered is passed
over, and what the host says is taken as it is. What is left are the looks at the file system
whose refusal nobody catches: at the files that references hint at, at the profile directories of a
portable project, and at the places where the base runtime may lie as a dependency of the language
core.

Here these looks are collected, in the order in which they happen. Flag assembly returns when none
of them is refused, and otherwise fails with the first refusal.
-/

namespace FSharpFlags

open FileSystem

variable {fs : FileSystem}

open Attempt (returns_pure returns_note_pure)

/-! ## What never fails -/

theorem returns_splitExtraFlags (text : String) : (splitExtraFlags text).Returns := by
  unfold splitExtraFlags
  split
  · exact returns_pure _
  · split
    · exact returns_pure _
    · exact returns_note_pure _ _

namespace Inspector

variable {inspector : Inspector}

theorem returns_frameworkIsPortable (path : String) :
    (inspector.frameworkIsPortable path).Returns := by
  refine (returns_note_pure _ _).bind fun reading ↦ ?_
  cases reading with
  | inaccessible detail => exact returns_note_pure _ _
  | unreadable detail => exact returns_pure _
  | ok text => cases text <;> exact returns_pure _

theorem returns_isPortable (path : String) : (inspector.isPortable path).Returns := by
  refine (returns_note_pure _ _).bind fun reading ↦ ?_
  cases reading with
  | inaccessible detail => exact returns_note_pure _ _
  | unreadable detail => exact returns_note_pure _ _
  | ok rows =>
    dsimp only
    split
    · exact returns_pure _
    · exact returns_frameworkIsPortable path

theorem returns_anyPortable (paths : List String) : (inspector.anyPortable paths).Returns := by
  induction paths with
  | nil => exact returns_pure _
  | cons path rest ih =>
    refine (returns_isPortable path).bind fun found ↦ ?_
    cases found with
    | true => exact returns_pure _
    | false => exact ih

end Inspector

namespace Project

variable {p : Project} {selection : Selection} {o : GenerationOptions} {inspector : Inspector}

/-! ## Declared references -/

/-- The look of a declared reference: at the file that it hints at. -/
def hintLooks (p : Project) (r : DeclaredReference) : List String :=
  let hinted := (given r.hintPath).toList.map fun hint ↦ (Path.parse (p.hintedPath hint)).text
  match r.kind, r.package with
  | .assembly, _ => hinted
  | .package, none => hinted
  | _, _ => []

theorem looksAt_hintedPaths (r : DeclaredReference) :
    fs.LooksAt ((given r.hintPath).toList.map fun hint ↦ (Path.parse (p.hintedPath hint)).text)
      (p.hintedPaths fs r) := by
  unfold hintedPaths
  cases given r.hintPath with
  | none => exact looksAt_ok []
  | some hint =>
    refine (looksAt_examine Node.isFile _).bind_of_returns fun found _ ↦ ?_
    cases found <;> exact ⟨_, rfl⟩

theorem looksAt_pathsOf (r : DeclaredReference) :
    fs.LooksAt (p.hintLooks r) (p.pathsOf fs selection r) := by
  unfold hintLooks pathsOf
  cases r.kind with
  | assembly => exact looksAt_hintedPaths r
  | package =>
    cases r.package with
    | none => exact looksAt_hintedPaths r
    | some package => exact looksAt_ok _
  | project => exact looksAt_ok _
  | custom => exact looksAt_ok _

theorem looksAt_collect (wanted : ReferenceKind → Bool) :
    fs.LooksAt ((p.references.filter (wanted ·.kind)).flatMap p.hintLooks)
      (p.collect fs selection wanted) :=
  (looksAt_mapM looksAt_pathsOf).bind_of_returns fun located _ ↦ ⟨located.flatten, rfl⟩

theorem looksAt_collect_all :
    fs.LooksAt (p.references.flatMap p.hintLooks) (p.collect fs selection) := by
  have h : fs.LooksAt _ (p.collect fs selection) := looksAt_collect fun _ ↦ true
  rwa [List.filter_true] at h

/-- Fewer references are collected once all of them were. -/
theorem exists_of_collect_eq_ok {declared : List String} (h : p.collect fs selection = .ok declared)
    (wanted : ReferenceKind → Bool) : ∃ paths, p.collect fs selection wanted = .ok paths := by
  -- Every look of a reference that is wanted is among the looks of all references.
  have hall := looksAt_collect_all.exists_ok_iff.mp ⟨declared, h⟩
  refine (looksAt_collect wanted).exists_ok_iff.mpr fun path hpath ↦ hall path ?_
  obtain ⟨r, hr, hlook⟩ := List.mem_flatMap.mp hpath
  exact List.mem_flatMap_of_mem (List.mem_of_mem_filter hr) hlook

/-! ## The libraries of a profile -/

/-- What is no directory has no libraries, so testing for it first changes nothing. -/
theorem libraries_of_isDirectory (directory : Path) :
    (do if ← fs.isDirectory directory.text then fs.libraries directory else return [])
      = fs.libraries directory := by
  cases h : fs.isDirectory directory.text with
  | error failure =>
    unfold libraries namesIn
    rw [h]
    rfl
  | ok found =>
    cases found with
    | true => rfl
    | false =>
      unfold libraries namesIn
      rw [h]
      rfl

/-- The looks for the libraries of a profile: up to the first root with reference assemblies. -/
def profileLooks (fs : FileSystem) (m : Moniker) : List String → List String
  | [] => []
  | root :: rest =>
    let portable := ((Path.parse root).child Moniker.portable).text
    portable :: if fs.isDirectory portable = .ok true then
        fs.libraryLooks ((Path.parse root).join m.assemblyDirectory)
      else profileLooks fs m rest

theorem looksAt_profileLibraries (m : Moniker) (roots : List String) :
    fs.LooksAt (profileLooks fs m roots) (profileLibraries fs m roots) := by
  induction roots with
  | nil => exact looksAt_ok []
  | cons root rest ih =>
    refine (looksAt_examine Node.isDirectory _).bind fun found hfound ↦ ?_
    rw [show fs.isDirectory ((Path.parse root).child Moniker.portable).text = .ok found
      from hfound]
    cases found with
    | false => exact ih
    | true =>
      have hlibraries : fs.LooksAt _ _ :=
        looksAt_libraries ((Path.parse root).join m.assemblyDirectory)
      rw [← libraries_of_isDirectory] at hlibraries
      exact hlibraries

/-! ## The flags -/

theorem returns_facades (hfacades : ∃ facades, p.runtime.facades p.framework = .ok facades) :
    p.facades.Returns := by
  obtain ⟨facades, h⟩ := hfacades
  exact ⟨_, Attempt.outcome_bind_eq_ok_iff.mpr
    ⟨(), rfl, Attempt.outcome_bind_eq_ok_iff.mpr ⟨facades, h, rfl⟩⟩⟩

/-- Whether facades are needed is decided without a look that collecting the references did not
take before. -/
theorem returns_applicableFacades {declared : List String}
    (hfacades : ∃ facades, p.runtime.facades p.framework = .ok facades)
    (h : p.collect fs selection = .ok declared) :
    (p.applicableFacades fs selection inspector).Returns := by
  have hneeds : (p.needsFacades fs selection inspector).Returns := by
    have hassemblies := exists_of_collect_eq_ok h (· = .assembly)
    unfold needsFacades
    split
    · exact returns_pure _
    · exact Attempt.Returns.bind hassemblies Inspector.returns_anyPortable
  unfold applicableFacades
  split
  · exact returns_pure _
  · refine hneeds.bind fun needed ↦ ?_
    cases needed with
    | true => exact returns_facades hfacades
    | false => exact returns_pure _

theorem looksAt_candidateSet
    (hfacades : ∃ facades, p.runtime.facades p.framework = .ok facades) :
    fs.LooksAt (p.references.flatMap p.hintLooks)
      (p.candidateSet fs selection inspector).outcome := by
  have hpaths : fs.LooksAt (p.references.flatMap p.hintLooks)
      (p.candidatePaths fs selection inspector).outcome := by
    -- Once the declared references are collected, nothing that follows can be refused.
    refine LooksAt.attempt_bind_of_returns looksAt_collect_all fun declared hdeclared ↦ ?_
    refine (returns_note_pure _ _).bind fun resolved ↦ ?_
    exact (returns_applicableFacades hfacades hdeclared).bind fun facades ↦ returns_pure _
  exact hpaths.attempt_bind_of_returns fun paths _ ↦ returns_pure _

/-- The looks of flag assembly, in the order in which they happen. -/
def looks (fs : FileSystem) (p : Project) (selection : Selection) (o : GenerationOptions) :
    List String :=
  p.references.flatMap p.hintLooks ++
    if p.isPortable then profileLooks fs p.portableMoniker p.runtime.referenceDirectories
    else
      match (p.candidateSet fs selection o.inspector).outcome with
      | .ok set => (set.coreInputs o.env o.language (o.targetOf p) o.inspector).looks fs
      | .error _ => []

theorem looksAt_portableReferences :
    fs.LooksAt (p.references.flatMap p.hintLooks
        ++ profileLooks fs p.portableMoniker p.runtime.referenceDirectories)
      (p.portableReferences fs selection) :=
  looksAt_collect_all.bind fun _ _ ↦
    (looksAt_profileLibraries _ _).bind_of_returns fun _ _ ↦ ⟨_, rfl⟩

theorem looksAt_referencePaths
    (hfacades : ∃ facades, p.runtime.facades p.framework = .ok facades) :
    fs.LooksAt (p.looks fs selection o) (p.referencePaths fs selection o).outcome := by
  unfold looks referencePaths
  split
  · exact LooksAt.attempt_bind_of_returns looksAt_portableReferences fun _ _ ↦ returns_pure _
  · have hreconciled : fs.LooksAt (p.references.flatMap p.hintLooks ++
          match (p.candidateSet fs selection o.inspector).outcome with
          | .ok set => (set.coreInputs o.env o.language (o.targetOf p) o.inspector).looks fs
          | .error _ => [])
        (p.reconciled fs selection o).outcome := by
      refine (looksAt_candidateSet hfacades).attempt_bind fun set hset ↦ ?_
      rw [hset]
      exact (set.looksAt_reconcile _ _ _ _).attempt_bind_of_returns fun _ _ ↦ returns_pure _
    exact hreconciled.attempt_bind_of_returns fun _ _ ↦ returns_pure _

/-- **Flag assembly returns exactly when none of its looks is refused**, provided that the host says
which facades there are. Otherwise it fails with the first refusal, which is for want of a
permission or for a name that is too long. -/
theorem compilerOptions_returns_iff {settings : CompilerSettings}
    (hfacades : ∃ facades, p.runtime.facades p.framework = .ok facades) :
    ((∃ options, (p.compilerOptions fs settings selection o).outcome = .ok options)
        ↔ ∀ path ∈ p.looks fs selection o, fs.refusal? path = none)
      ∧ ∀ failure, (p.compilerOptions fs settings selection o).outcome = .error failure
        → (p.looks fs selection o).findSome? fs.refusal? = some failure
          ∧ ∃ path ∈ p.looks fs selection o,
            failure = .file .denied path ∨ failure = .file .nameTooLong path := by
  have hlooks : fs.LooksAt (p.looks fs selection o)
      (p.compilerOptions fs settings selection o).outcome := by
    refine LooksAt.attempt_bind_of_returns ?_ fun references _ ↦ ?_
    · exact (looksAt_referencePaths hfacades).attempt_bind_of_returns fun _ _ ↦ returns_pure _
    · exact (returns_splitExtraFlags _).bind fun extra ↦ returns_pure _
  refine ⟨hlooks.exists_ok_iff, fun failure hfailure ↦ ?_⟩
  have hfirst := (hlooks failure).mp hfailure
  obtain ⟨path, hpath, hrefusal⟩ := List.exists_of_findSome?_eq_some hfirst
  exact ⟨hfirst, path, hpath, denied_or_nameTooLong_of_refusal? hrefusal⟩

end Project

/-! ### An instance -/

/-- A project that hints at a file in a directory of its own. -/
def hintingProject : Project :=
  { hostedProject [] with
    references := [{ kind := .assembly, identity := "A", hintPath := some "/closed/A.dll" }] }

/-- A file system where that directory is closed. -/
def closedDirectory : FileSystem where
  root := .directory [("rt", .directory [("FSharp.Core.dll", .file .empty false),
    ("mscorlib.dll", .file .empty false)] false),
    ("closed", .directory [("A.dll", .file .empty false)] true)] false
  currentDirectory := "/work"

/-- Without the directory the hint leads nowhere, which is an answer. -/
theorem compilerOptions_returns_iff_absentHint :
    (∃ facades, hintingProject.runtime.facades hintingProject.framework = .ok facades)
      ∧ hintingProject.looks coreLibraries {} runtimeOptions = ["/closed/A.dll"]
      ∧ ∃ options, (hintingProject.compilerOptions coreLibraries { name := "Debug" } {}
          runtimeOptions).outcome = .ok options :=
  ⟨⟨[], rfl⟩, by decide +kernel,
    (Project.compilerOptions_returns_iff ⟨[], rfl⟩).1.mpr (by decide +kernel)⟩

/-- With the directory closed, there are no flags at all. -/
theorem compilerOptions_closedHint :
    (∃ facades, hintingProject.runtime.facades hintingProject.framework = .ok facades)
      ∧ ¬∃ options, (hintingProject.compilerOptions closedDirectory { name := "Debug" } {}
          runtimeOptions).outcome = .ok options := by
  have hdenied : (hintingProject.compilerOptions closedDirectory { name := "Debug" } {}
      runtimeOptions).outcome = .error (.file .denied "/closed/A.dll") := by decide +kernel
  refine ⟨⟨[], rfl⟩, ?_⟩
  rintro ⟨options, hoptions⟩
  cases hdenied.symm.trans hoptions

end FSharpFlags
