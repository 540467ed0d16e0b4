import FSharpFlags.Proofs.FlagAssembly

/-!
# When facades apply

Whether facades apply to a project is decided by three questions, each of which is put only when the
ones before leave the matter open: has the project a profile, has a project that it refers to a
profile, is an assembly that it refers to portable. Only the last one is a question to the
inspector. It is put assembly by assembly and ends with the first portable one, and about one
assembly there are again two questions, of which the second is put only when the first leaves the
matter open.

What the decision comes to is said here without any of this order, by what holds of the projects and
of the assemblies. What was asked on the way is said by the assemblies up to the first portable one.
-/

namespace FSharpFlags

open Attempt (isQuiet_pure isQuiet_ofExcept isQuiet_note)

variable {fs : FileSystem}

/-! ## One assembly -/

namespace Inspector

variable {inspector : Inspector} {path : String}

/-- Whether what the inspector answers makes an assembly portable: its reference table can be read
and has a row for the facade of the runtime, or its target framework cannot be fetched or names a
profile. -/
def FindsPortable (inspector : Inspector) (path : String) : Prop :=
  ∃ rows, inspector.references path = .ok rows
    ∧ ((∃ row ∈ rows, row.name = systemRuntime)
      ∨ (∃ detail, inspector.framework path = .inaccessible detail)
      ∨ ∃ text name, inspector.framework path = .ok (some text)
        ∧ FrameworkName.parse text = .ok name ∧ name.profile ≠ "")

/-- Whether the reference table of an assembly can be read and does not settle the question. -/
def LeavesOpen (inspector : Inspector) (path : String) : Prop :=
  ∃ rows, inspector.references path = .ok rows ∧ ∀ row ∈ rows, row.name ≠ systemRuntime

instance (inspector : Inspector) (path : String) : Decidable (inspector.LeavesOpen path) :=
  decidable_of_iff ((inspector.references path).value?.any
      fun rows ↦ rows.all fun row ↦ row.name ≠ systemRuntime) <| by
    cases h : inspector.references path <;> simp [LeavesOpen, Reading.value?, h]

/-- The queries about one assembly. -/
def queries (inspector : Inspector) (path : String) : List Event :=
  .askedReferences path ::
    if inspector.LeavesOpen path then [.askedFramework path] else []

theorem namesProfile_iff (text : String) :
    namesProfile text = true ↔
      ∃ name, FrameworkName.parse text = .ok name ∧ name.profile ≠ "" := by
  unfold namesProfile
  cases FrameworkName.parse text <;> simp

theorem outcome_frameworkIsPortable_eq_true_iff :
    (inspector.frameworkIsPortable path).outcome = .ok true ↔
      (∃ detail, inspector.framework path = .inaccessible detail)
        ∨ ∃ text name, inspector.framework path = .ok (some text)
          ∧ FrameworkName.parse text = .ok name ∧ name.profile ≠ "" := by
  rw [frameworkIsPortable, askFramework]
  cases inspector.framework path with
  | inaccessible detail => exact iff_of_true rfl (.inl ⟨detail, rfl⟩)
  | unreadable detail => exact iff_of_false nofun (by simp)
  | ok text =>
    cases text with
    | none => exact iff_of_false nofun (by simp)
    | some text =>
      calc Except.ok (ε := Failure) (namesProfile text) = .ok true
          ↔ namesProfile text = true := by rw [Except.ok.injEq]
        _ ↔ _ := by rw [namesProfile_iff]; simp

theorem filter_isInspection_frameworkIsPortable :
    (inspector.frameworkIsPortable path).events.filter Event.isInspection
      = [.askedFramework path] := by
  rw [frameworkIsPortable, askFramework]
  cases inspector.framework path with
  | inaccessible detail => rfl
  | unreadable detail => rfl
  | ok text => cases text <;> rfl

/-- An assembly is portable when what the inspector answers makes it so. -/
theorem outcome_isPortable_eq_true_iff :
    (inspector.isPortable path).outcome = .ok true ↔ inspector.FindsPortable path := by
  rw [isPortable, askReferences, FindsPortable]
  cases inspector.references path with
  | inaccessible detail => exact iff_of_false nofun (by simp)
  | unreadable detail => exact iff_of_false nofun (by simp)
  | ok rows =>
    simp only [Reading.ok.injEq, exists_eq_left']
    rw [← outcome_frameworkIsPortable_eq_true_iff]
    change (if rows.any (·.name = systemRuntime) then pure true
      else inspector.frameworkIsPortable path : Attempt Bool).outcome = _ ↔ _
    by_cases hrow : ∃ row ∈ rows, row.name = systemRuntime
    · rw [if_pos (by simpa using hrow)]
      exact iff_of_true rfl (.inl hrow)
    · rw [if_neg (by simpa using hrow), or_iff_right hrow]

/-- What is asked about an assembly does not depend on what comes of it. -/
theorem filter_isInspection_isPortable :
    (inspector.isPortable path).events.filter Event.isInspection = inspector.queries path := by
  rw [isPortable, askReferences, queries]
  cases hreferences : inspector.references path with
  | inaccessible detail =>
    rw [if_neg (by simp [LeavesOpen, hreferences])]
    rfl
  | unreadable detail =>
    rw [if_neg (by simp [LeavesOpen, hreferences])]
    rfl
  | ok rows =>
    change (Event.askedReferences path ::
      (if rows.any (·.name = systemRuntime) then pure true
        else inspector.frameworkIsPortable path : Attempt Bool).events).filter _ = _
    rw [List.filter_cons_of_pos rfl]
    congr 1
    by_cases hopen : inspector.LeavesOpen path
    · rw [if_pos hopen, if_neg, filter_isInspection_frameworkIsPortable]
      simpa [LeavesOpen, hreferences] using hopen
    · rw [if_neg hopen, if_pos]
      · rfl
      · simpa [LeavesOpen, hreferences] using hopen

end Inspector

/-! ## One assembly after the other -/

/-- Whether a search through a list visits these of its elements: those up to the first one that is
wanted, and all of them if none is. -/
structure Visits {α : Type} (IsWanted : α → Prop) (all visited : List α) : Prop where
  /-- The elements are visited in order. -/
  begins : visited <+: all
  /-- Behind a wanted element nothing is visited. -/
  passes : ∀ a ∈ visited.dropLast, ¬IsWanted a
  /-- The search ends at the end of the list or at a wanted element. -/
  ends : visited = all ∨ ∃ a ∈ visited.getLast?, IsWanted a

namespace Visits

variable {α : Type} {IsWanted : α → Prop} {a : α} {rest visited : List α}

theorem nil : Visits IsWanted [] [] := ⟨List.prefix_rfl, by simp, .inl rfl⟩

theorem of_isWanted (h : IsWanted a) (rest : List α) : Visits IsWanted (a :: rest) [a] :=
  ⟨List.prefix_cons_inj a |>.mpr rest.nil_prefix, by simp, .inr ⟨a, rfl, h⟩⟩

theorem cons (ha : ¬IsWanted a) (h : Visits IsWanted rest visited) :
    Visits IsWanted (a :: rest) (a :: visited) := by
  refine ⟨(List.prefix_cons_inj a).mpr h.begins, ?_, ?_⟩
  · intro b hb
    cases visited with
    | nil => cases hb
    | cons first more =>
      rcases List.mem_cons.mp hb with rfl | hb
      · exact ha
      · exact h.passes b hb
  · rcases h.ends with rfl | ⟨b, hb, hwanted⟩
    · exact .inl rfl
    · refine .inr ⟨b, ?_, hwanted⟩
      rw [Option.mem_def] at hb ⊢
      rw [List.getLast?_cons, hb]
      rfl

end Visits

namespace Inspector

variable {inspector : Inspector}

theorem outcome_anyPortable_eq_true_iff (paths : List String) :
    (inspector.anyPortable paths).outcome = .ok true
      ↔ ∃ path ∈ paths, inspector.FindsPortable path := by
  induction paths with
  | nil => exact iff_of_false nofun (by simp)
  | cons path rest ih =>
    rw [anyPortable, Attempt.outcome_bind_eq_ok_iff, List.exists_mem_cons_iff, ← ih,
      ← outcome_isPortable_eq_true_iff]
    obtain ⟨found, hfound⟩ : (inspector.isPortable path).Returns := returns_isPortable path
    rw [hfound]
    cases found with
    | true => exact iff_of_true ⟨true, rfl, rfl⟩ (.inl rfl)
    | false =>
      rw [or_iff_right nofun]
      constructor
      · rintro ⟨_, hok, hrest⟩
        obtain rfl := Except.ok.inj hok
        exact hrest
      · exact fun hrest ↦ ⟨false, rfl, hrest⟩

/-- **Assemblies are asked about up to the first portable one.** -/
theorem exists_visits_anyPortable (inspector : Inspector) (paths : List String) :
    ∃ visited, Visits inspector.FindsPortable paths visited
      ∧ (inspector.anyPortable paths).events.filter Event.isInspection
        = visited.flatMap inspector.queries := by
  induction paths with
  | nil => exact ⟨[], .nil, rfl⟩
  | cons path rest ih =>
    obtain ⟨found, hfound⟩ : (inspector.isPortable path).Returns := returns_isPortable path
    rw [anyPortable, Attempt.bind_of_ok hfound, List.filter_append, filter_isInspection_isPortable]
    by_cases hportable : inspector.FindsPortable path
    · rw [outcome_isPortable_eq_true_iff.mpr hportable] at hfound
      obtain rfl := Except.ok.inj hfound
      exact ⟨[path], .of_isWanted hportable rest, by simp⟩
    · obtain ⟨visited, hvisited, hevents⟩ := ih
      have hfalse : found = false := by
        rw [← outcome_isPortable_eq_true_iff, hfound, Except.ok.injEq] at hportable
        exact Bool.eq_false_of_not_eq_true hportable
      subst hfalse
      exact ⟨path :: visited, hvisited.cons hportable, congrArg (_ ++ ·) hevents⟩

end Inspector

/-! ## The project -/

namespace Project

variable {p : Project} {selection : Selection} {inspector : Inspector} {facades : List String}

/-- Whether a project that the given one refers to has a profile. -/
def ReferencesProfile (p : Project) (selection : Selection) : Prop :=
  ∃ neighbour ∈ p.neighbours selection, neighbour.framework.profile ≠ ""

/-- Whether a project without a profile uses portable code: that of a project that it refers to, or
that of an assembly that it refers to. -/
def UsesPortableCode (fs : FileSystem) (p : Project) (selection : Selection)
    (inspector : Inspector) : Prop :=
  p.framework.profile = "" ∧
    (p.ReferencesProfile selection
      ∨ ∃ paths, p.collect fs selection (· = .assembly) = .ok paths
        ∧ ∃ path ∈ paths, inspector.FindsPortable path)

theorem isPortable_eq_true_iff (p : ProjectOutside) :
    p.isPortable = true ↔ p.framework.profile ≠ "" := by
  simp [ProjectOutside.isPortable, Moniker.isPortable]

theorem any_isPortable_neighbours_iff (p : Project) (selection : Selection) :
    (p.neighbours selection).any (·.isPortable) = true ↔ p.ReferencesProfile selection := by
  simp only [List.any_eq_true, isPortable_eq_true_iff, ReferencesProfile]

theorem needsFacades_of_referencesProfile (h : p.ReferencesProfile selection) :
    p.needsFacades fs selection inspector = pure true := by
  rw [needsFacades, if_pos ((p.any_isPortable_neighbours_iff selection).mpr h)]

theorem needsFacades_of_not_referencesProfile (h : ¬p.ReferencesProfile selection) :
    p.needsFacades fs selection inspector
      = (do inspector.anyPortable (← p.collect fs selection (· = .assembly))) := by
  rw [needsFacades, if_neg (mt (p.any_isPortable_neighbours_iff selection).mp h)]

/-- What is asked about the assemblies that a project refers to: nothing if a project that it refers
to settles the matter, else one assembly after the other. -/
def AsksAbout (fs : FileSystem) (p : Project) (selection : Selection) (inspector : Inspector)
    (asked : List Event) : Prop :=
  (p.ReferencesProfile selection → asked = [])
    ∧ (¬p.ReferencesProfile selection →
      ∃ paths visited, p.collect fs selection (· = .assembly) = .ok paths
        ∧ Visits inspector.FindsPortable paths visited ∧ asked = visited.flatMap inspector.queries)

theorem asksAbout_of_needsFacades {needed : Bool}
    (h : (p.needsFacades fs selection inspector).outcome = .ok needed) :
    p.AsksAbout fs selection inspector
      ((p.needsFacades fs selection inspector).events.filter Event.isInspection) := by
  constructor
  · intro hreferences
    rw [needsFacades_of_referencesProfile hreferences]
    rfl
  · intro hreferences
    rw [needsFacades_of_not_referencesProfile hreferences] at h ⊢
    obtain ⟨paths, hpaths, -⟩ := Attempt.outcome_bind_eq_ok_iff.mp h
    obtain ⟨visited, hvisited, hevents⟩ := inspector.exists_visits_anyPortable paths
    refine ⟨paths, visited, hpaths, hvisited, ?_⟩
    rw [Attempt.events_bind_of_ok hpaths]
    exact hevents

theorem eq_true_iff_of_needsFacades {needed : Bool} (hp : p.framework.profile = "")
    (h : (p.needsFacades fs selection inspector).outcome = .ok needed) :
    needed = true ↔ p.UsesPortableCode fs selection inspector := by
  rw [UsesPortableCode, and_iff_right hp]
  by_cases hreferences : p.ReferencesProfile selection
  · rw [needsFacades_of_referencesProfile hreferences] at h
    exact iff_of_true (Except.ok.inj h).symm (.inl hreferences)
  · rw [needsFacades_of_not_referencesProfile hreferences] at h
    obtain ⟨paths, hpaths, hany⟩ := Attempt.outcome_bind_eq_ok_iff.mp h
    have hcollect : p.collect fs selection (· = .assembly) = .ok paths := hpaths
    rw [or_iff_right hreferences, hcollect]
    simp only [Except.ok.injEq, exists_eq_left']
    rw [← Inspector.outcome_anyPortable_eq_true_iff, hany, Except.ok.injEq]

theorem applicableFacades_of_profile (hp : p.framework.profile ≠ "") :
    p.applicableFacades fs selection inspector = pure [] := by
  rw [applicableFacades, if_pos ((isPortable_eq_true_iff _).mpr hp)]

theorem applicableFacades_of_no_profile (hp : p.framework.profile = "") :
    p.applicableFacades fs selection inspector
      = (do if ← p.needsFacades fs selection inspector then p.facades else return []) := by
  rw [applicableFacades, if_neg (mt (isPortable_eq_true_iff _).mp (not_not.mpr hp))]

theorem exists_of_facades (h : p.facades.outcome = .ok facades) :
    ∃ all, p.runtime.facades p.framework = .ok all
      ∧ facades = all.filter fun path ↦ !isExcludedFacade path := by
  obtain ⟨_, -, h⟩ := Attempt.outcome_bind_eq_ok_iff.mp h
  obtain ⟨all, hall, h⟩ := Attempt.outcome_bind_eq_ok_iff.mp h
  exact ⟨all, hall, (Except.ok.inj h).symm⟩

theorem filter_isInspection_facades (p : Project) :
    p.facades.events.filter Event.isInspection = [] := by
  refine ((isQuiet_note rfl rfl).bind fun _ ↦ ?_).filter_isInspection
  exact (isQuiet_ofExcept _).bind fun all ↦ isQuiet_pure _

/-- **Facades apply to a project that uses portable code**, and to no other. Those that apply are
the facades of its runtime but for the ones that stand for a core assembly. A project with a profile
leads to no query about assemblies, and nor does one that refers to a project with a profile. For
any other project the queries are those about the assemblies that it refers to, in order of
declaration and up to the first portable one. -/
theorem applicableFacades_decides
    (h : (p.applicableFacades fs selection inspector).outcome = .ok facades) :
    (p.UsesPortableCode fs selection inspector →
        ∃ all, p.runtime.facades p.framework = .ok all
          ∧ facades = all.filter fun path ↦ !isExcludedFacade path)
      ∧ (¬p.UsesPortableCode fs selection inspector → facades = [])
      ∧ (p.framework.profile ≠ "" →
        (p.applicableFacades fs selection inspector).events.filter Event.isInspection = [])
      ∧ (p.framework.profile = "" → p.AsksAbout fs selection inspector
        ((p.applicableFacades fs selection inspector).events.filter Event.isInspection)) := by
  by_cases hp : p.framework.profile = ""
  · rw [applicableFacades_of_no_profile hp] at h ⊢
    obtain ⟨needed, hneeded, hfacades⟩ := Attempt.outcome_bind_eq_ok_iff.mp h
    have hasks := asksAbout_of_needsFacades hneeded
    have hiff := eq_true_iff_of_needsFacades hp hneeded
    rw [Attempt.events_bind_of_ok hneeded, List.filter_append]
    -- Asking the runtime for its facades is no query about an assembly.
    have hnone : (if needed then p.facades else return []).events.filter Event.isInspection
        = [] := by
      cases needed with
      | true => exact filter_isInspection_facades p
      | false => rfl
    rw [hnone, List.append_nil]
    refine ⟨fun huses ↦ ?_, fun hnot ↦ ?_, fun hprofile ↦ absurd hp hprofile, fun _ ↦ hasks⟩
    · rw [if_pos (hiff.mpr huses)] at hfacades
      exact exists_of_facades hfacades
    · rw [if_neg (mt hiff.mp hnot)] at hfacades
      exact (Except.ok.inj hfacades).symm
  · rw [applicableFacades_of_profile hp] at h ⊢
    obtain rfl := Except.ok.inj h
    exact ⟨fun huses ↦ absurd huses.1 hp, fun _ ↦ rfl, fun _ ↦ rfl, fun hnone ↦ absurd hnone hp⟩

end Project

/-! ### An instance -/

/-- A project with three assemblies, over a runtime with two facades. -/
def libraryUser : Project :=
  { hostedProject [] with
    references := ["/lib/A.dll", "/lib/B.dll", "/lib/C.dll"].map fun path ↦
      { kind := .assembly, identity := path, hintPath := some path }
    runtime := { (hostedProject []).runtime with
      facades := fun _ ↦ .ok ["/facades/System.IO.dll", "/facades/mscorlib.dll"] } }

/-- The files of the three assemblies. -/
def libraryFiles : FileSystem where
  root := .directory [("lib", .directory (["A.dll", "B.dll", "C.dll"].map fun name ↦
    (name, .file .empty false)) false)] false
  currentDirectory := "/"

/-- The first assembly is for the desktop framework, the others refer to the facade of the runtime.
-/
def libraryInspector : Inspector where
  references path :=
    .ok [{ name := if path = "/lib/A.dll" then "mscorlib" else systemRuntime }]
  framework _ := .ok (some ".NETFramework,Version=v4.5")

/-- The second assembly is the first portable one, so the third is not asked about. -/
theorem applicableFacades_decides_libraries :
    (libraryUser.applicableFacades libraryFiles {} libraryInspector).outcome
        = .ok ["/facades/System.IO.dll"]
      ∧ libraryUser.UsesPortableCode libraryFiles {} libraryInspector
      ∧ ∃ visited,
        Visits libraryInspector.FindsPortable ["/lib/A.dll", "/lib/B.dll", "/lib/C.dll"] visited
          ∧ visited.flatMap libraryInspector.queries = [.askedReferences "/lib/A.dll",
            .askedFramework "/lib/A.dll", .askedReferences "/lib/B.dll"] := by
  have h : (libraryUser.applicableFacades libraryFiles {} libraryInspector).outcome
      = .ok ["/facades/System.IO.dll"] := by decide +kernel
  obtain ⟨-, hnone, -, hasks⟩ := Project.applicableFacades_decides h
  have huses : libraryUser.UsesPortableCode libraryFiles {} libraryInspector := by
    by_contra hnot
    cases hnone hnot
  have hneighbours : ¬libraryUser.ReferencesProfile {} := by
    rintro ⟨neighbour, hneighbour, -⟩
    cases hneighbour
  obtain ⟨paths, visited, hpaths, hvisited, hevents⟩ := (hasks rfl).2 hneighbours
  have hdeclared : libraryUser.collect libraryFiles {} (· = .assembly)
      = .ok ["/lib/A.dll", "/lib/B.dll", "/lib/C.dll"] := by decide +kernel
  obtain rfl := Except.ok.inj (hpaths.symm.trans hdeclared)
  refine ⟨h, huses, visited, hvisited, ?_⟩
  rw [← hevents]
  decide +kernel

end FSharpFlags
