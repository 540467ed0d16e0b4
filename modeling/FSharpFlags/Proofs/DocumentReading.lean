import FSharpFlags.Proofs.Traversal
import FSharpFlags.Workspace.Document

/-!
# Reading a document step by step

A document is read from the outside inwards, and every step either goes on or ends the reading. The
statements here say when each of the larger steps goes on, and with what: the document, its list of
projects, one project. They are stated as equivalences, so that a document that was accepted can be
taken apart and one that resembles it put together again. Of the parts of a project it is said what
they were read from.
-/

namespace FSharpFlags

namespace Document

open Json (Members)

variable {path : Path} {members : Members} {items : List Json} {item : Json}
  {before projects : List WorkspaceProject} {project : WorkspaceProject} {w : Workspace}

/-! ## The parts of a project -/

/-- Only a configuration with compiler settings comes with an explicit output, which is located from
the directory of the project. -/
theorem output_of_readConfiguration {site : Site} {name output : String}
    {configuration : Configuration}
    (h : readConfiguration site name item = .ok (configuration, some output)) :
    (∃ settings, configuration = .compiled settings ∧ settings.name = name)
      ∧ ∃ text, output = site.base.located text := by
  unfold readConfiguration at h
  split at h
  · dsimp only at h
    split at h
    · cases h
    · -- The checks of the fields, the list of symbols, and then settings and output.
      obtain ⟨_, -, h⟩ := bind_eq_ok_iff.mp h
      obtain ⟨_, -, h⟩ := bind_eq_ok_iff.mp h
      obtain ⟨defines, -, h⟩ := bind_eq_ok_iff.mp h
      obtain ⟨hsettings, houtput⟩ := Prod.mk.inj (Except.ok.inj h)
      obtain ⟨value, -, rfl⟩ := Option.map_eq_some_iff.mp houtput
      exact ⟨⟨_, hsettings.symm, rfl⟩, value.shown, rfl⟩
    · cases h
  · cases h

theorem exists_readConfiguration {site : Site} {configurations : Option Json}
    {read : List (String × (Configuration × Option String))}
    (h : readConfigurations site configurations = .ok read)
    {c : String × (Configuration × Option String)} (hc : c ∈ read) :
    ∃ item, readConfiguration site c.1 item = .ok c.2 := by
  unfold readConfigurations at h
  split at h
  · obtain rfl := Except.ok.inj h
    cases hc
  · obtain ⟨m, -, hm⟩ := exists_of_mem_mapM h hc
    obtain ⟨value, hvalue, hm⟩ := bind_eq_ok_iff.mp hm
    obtain rfl := Except.ok.inj hm
    exact ⟨m.2, hvalue⟩
  · cases h

/-- What the parts of a project were read from. -/
theorem parts_of_readContents {site : Site} {fileName : String} {p : WorkspaceProject}
    (h : readContents site fileName members = .ok p) :
    p.name = site.project ∧ p.fileName = fileName
      ∧ (∃ read, readConfigurations site (truthy? members "configurations") = .ok read
        ∧ p.configurations = read.map (fun c ↦ (c.1, c.2.1))
        ∧ p.outputs = read.filterMap fun c ↦ c.2.2.map (c.1, ·))
      ∧ (∀ r ∈ p.references, ∃ item, readReference site item = .ok r)
      ∧ (∀ path ∈ p.hostAssemblies, ∃ text, path = site.base.located text)
      ∧ ∀ f ∈ p.files, ∃ item, readFile site item = .ok f := by
  obtain ⟨framework, -, h⟩ := bind_eq_ok_iff.mp h
  obtain ⟨configurations, hconfigurations, h⟩ := bind_eq_ok_iff.mp h
  split at h
  · obtain ⟨defaultConfiguration, -, h⟩ := bind_eq_ok_iff.mp h
    obtain ⟨references, hreferences, h⟩ := bind_eq_ok_iff.mp h
    obtain ⟨assemblies, -, h⟩ := bind_eq_ok_iff.mp h
    obtain ⟨files, hfiles, h⟩ := bind_eq_ok_iff.mp h
    obtain rfl := Except.ok.inj h
    refine ⟨rfl, rfl, ⟨configurations, hconfigurations, rfl, rfl⟩, fun r hr ↦ ?_,
      fun path hpath ↦ ?_, fun f hf ↦ ?_⟩
    · obtain ⟨item, -, hitem⟩ := exists_of_mem_mapM hreferences hr
      exact ⟨item, hitem⟩
    · obtain ⟨text, -, rfl⟩ := List.mem_map.mp hpath
      exact ⟨text, rfl⟩
    · obtain ⟨item, -, hitem⟩ := exists_of_mem_mapM hfiles hf
      exact ⟨item, hitem⟩
  · cases h

/-! ## Projects -/

theorem readProject_eq_ok_iff :
    readProject path item = .ok project ↔ ∃ members name file, item = .object members
      ∧ nonEmptyString? members "name" = some name ∧ unknownKeys members projectFields = []
      ∧ nonEmptyString? members "file" = some file
      ∧ readContents ⟨path.text, name, (Path.parse (path.parent.located file)).parent⟩
          (path.parent.located file) members = .ok project := by
  constructor
  · intro h
    unfold readProject at h
    grind
  · rintro ⟨members, name, file, rfl, hname, hunknown, hfile, h⟩
    simp only [readProject, hname, hunknown, hfile, h]

/-- **Projects are read one by one**, as long as no name repeats. -/
theorem readProjects_eq_ok_iff (hbefore : (before.map (·.name)).Nodup) :
    readProjects path before items = .ok projects ↔ ∃ read,
      List.Forall₂ (fun item project ↦ readProject path item = .ok project) items read
        ∧ projects = before ++ read ∧ (projects.map (·.name)).Nodup := by
  induction items generalizing before with
  | nil =>
    constructor
    · intro h
      obtain rfl := Except.ok.inj h
      exact ⟨[], .nil, (List.append_nil _).symm, hbefore⟩
    · rintro ⟨_, ⟨⟩, rfl, -⟩
      exact congrArg Except.ok (List.append_nil before).symm
  | cons item rest ih =>
    have hfresh : ∀ project : WorkspaceProject,
        (before.any fun x ↦ decide (x.name = project.name)) = false
          ↔ ((before ++ [project]).map (·.name)).Nodup := by
      intro project
      rw [List.map_append, List.nodup_append]
      simp [hbefore]
    rw [readProjects, bind_eq_ok_iff]
    constructor
    · rintro ⟨project, hproject, h⟩
      split at h
      · cases h
      · next hany =>
        rw [Bool.not_eq_true, hfresh] at hany
        obtain ⟨read, hread, rfl, hnodup⟩ := (ih hany).mp h
        exact ⟨project :: read, .cons hproject hread, by simp, hnodup⟩
    · rintro ⟨_, hread, rfl, hnodup⟩
      obtain ⟨project, rest', hproject, hrest, rfl⟩ := List.forall₂_cons_left_iff.mp hread
      have hnext : ((before ++ [project]).map (·.name)).Nodup := by
        rw [List.append_cons, List.map_append, List.nodup_append] at hnodup
        exact hnodup.1
      refine ⟨project, hproject, ?_⟩
      rw [if_neg (by rw [Bool.not_eq_true, hfresh]; exact hnext)]
      exact (ih hnext).mpr ⟨rest', hrest, List.append_cons _ _ _, hnodup⟩

theorem readProjects_nil_eq_ok_iff :
    readProjects path [] items = .ok projects ↔
      List.Forall₂ (fun item project ↦ readProject path item = .ok project) items projects
        ∧ (projects.map (·.name)).Nodup := by
  rw [readProjects_eq_ok_iff (by simp)]
  simp

/-! ## Documents -/

/-- The checks of a document, in order. -/
theorem readWorkspace_object (path : Path) (members : Members) :
    readWorkspace path (.object members) =
      if isSupported members = false then
        .error (WorkspaceFault.unsupportedFormat.report path.text none)
      else if unknownKeys members topFields ≠ [] then
        .error ((WorkspaceFault.unknownTopFields (unknownKeys members topFields)).report
          path.text none)
      else readOptionalString (WorkspaceFault.activeNotString.report path.text none)
          (Json.get? members "active_configuration") >>= fun active ↦
        match Json.get? members "projects" with
        | some (.array items) =>
          readProjects path [] items >>= fun projects ↦ .ok ⟨path.text, active, projects⟩
        | _ => .error (WorkspaceFault.projectsNotList.report path.text none) := by
  unfold readWorkspace
  dsimp only
  cases isSupported members with
  | false => rfl
  | true =>
    cases unknownKeys members topFields with
    | nil => rfl
    | cons key rest => rfl

theorem readWorkspace_eq_ok_iff :
    readWorkspace path (.object members) = .ok w ↔
      isSupported members = true ∧ unknownKeys members topFields = []
        ∧ ∃ active items projects,
          readOptionalString (WorkspaceFault.activeNotString.report path.text none)
            (Json.get? members "active_configuration") = .ok active
          ∧ Json.get? members "projects" = some (.array items)
          ∧ List.Forall₂ (fun item project ↦ readProject path item = .ok project) items projects
          ∧ (projects.map (·.name)).Nodup
          ∧ w = ⟨path.text, active, projects⟩ := by
  rw [readWorkspace_object]
  split_ifs with hsupported hunknown
  · simp [hsupported]
  · simp [hunknown]
  · rw [Bool.not_eq_false] at hsupported
    rw [not_not] at hunknown
    simp only [hsupported, hunknown, true_and]
    rw [bind_eq_ok_iff]
    refine exists_congr fun active ↦ ?_
    constructor
    · rintro ⟨hactive, h⟩
      split at h
      · next items hitems =>
        obtain ⟨projects, hprojects, h⟩ := bind_eq_ok_iff.mp h
        obtain ⟨hread, hnodup⟩ := readProjects_nil_eq_ok_iff.mp hprojects
        exact ⟨items, projects, hactive, hitems, hread, hnodup, (Except.ok.inj h).symm⟩
      · cases h
    · rintro ⟨items, projects, hactive, hitems, hread, hnodup, rfl⟩
      rw [hitems]
      exact ⟨hactive, bind_eq_ok_iff.mpr
        ⟨projects, readProjects_nil_eq_ok_iff.mpr ⟨hread, hnodup⟩, rfl⟩⟩

/-- The projects of a document that was read come from its items and have different names. -/
theorem exists_of_readWorkspace {document : Json} (h : readWorkspace path document = .ok w) :
    (w.projects.map (·.name)).Nodup
      ∧ ∀ project ∈ w.projects, ∃ item, readProject path item = .ok project := by
  cases document with
  | object members =>
    obtain ⟨-, -, _, items, projects, -, -, hread, hnodup, rfl⟩ := readWorkspace_eq_ok_iff.mp h
    refine ⟨hnodup, fun project hproject ↦ ?_⟩
    obtain ⟨item, -, hitem⟩ := exists_mem_of_forall₂ hread.flip hproject
    exact ⟨item, hitem⟩
  | _ => cases h

end Document

theorem Workspace.exists_readWorkspace_of_load {fs : FileSystem} {path : Path} {w : Workspace}
    (h : Workspace.load fs path = .ok w) :
    ∃ document, Document.readWorkspace path document = .ok w := by
  unfold Workspace.load at h
  grind

end FSharpFlags
