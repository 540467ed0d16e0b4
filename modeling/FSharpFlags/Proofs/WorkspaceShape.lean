import FSharpFlags.Proofs.NormalForm
import FSharpFlags.Proofs.ProjectOutput

/-!
# The shape of a workspace that was read

A document says little about what its texts and lists hold, but what is read from it has a fixed
shape. Every path in it is seen from an absolute path and brought to its normal form: the project
files from the directory of the document, everything else from the directory of the project file,
which is absolute because the path of the project file is. Only a configuration with compiler
settings has an explicit output. And no name repeats, so a name leads to its project, and the
projects that one refers to are known by the names it refers to them with.
-/

namespace FSharpFlags

/-- Whether a path text is rooted and its own normal form. -/
structure IsSettled (path : String) : Prop where
  /-- It begins at the root. -/
  rooted : isRooted path = true
  /-- Taking its normal form changes nothing. -/
  normal : normalPath path = path

theorem isSettled_located {base : Path} (hread : base.IsRead) (habsolute : base.isAbsolute = true)
    (text : String) : IsSettled (base.located text) :=
  ⟨Document.isRooted_located habsolute text, Path.normalPath_located hread text⟩

/-- The directory of a file with a settled path, as a path that others are seen from. -/
theorem IsSettled.isAbsolute_parent {path : String} (h : IsSettled path) :
    (Path.parse path).parent.isAbsolute = true := by
  rw [Path.isAbsolute_parent, Path.isAbsolute_parse, h.rooted]

/-- Whether a project has the shape that reading gives it. -/
structure WorkspaceProject.IsWellFormed (p : WorkspaceProject) : Prop where
  /-- The project has a name. -/
  name_ne : p.name ≠ ""
  /-- The path of the project file is settled. -/
  fileName : IsSettled p.fileName
  /-- So are those of the explicit outputs. -/
  outputs : ∀ o ∈ p.outputs, IsSettled o.2
  /-- An explicit output belongs to a configuration with compiler settings, and if no configuration
  repeats, then to the one that the name leads to. -/
  settings : ∀ o ∈ p.outputs, ∃ settings, settings.name = o.1
    ∧ (o.1, .compiled settings) ∈ p.configurations
    ∧ ((p.configurations.map (·.1)).Nodup →
      p.configurations.lookup o.1 = some (.compiled settings))
  /-- The paths of the assemblies that are resolved for the project are settled. -/
  hostAssemblies : ∀ path ∈ p.hostAssemblies, IsSettled path
  /-- So are those of the items. -/
  files : ∀ f ∈ p.files, IsSettled f.path
  /-- So are those of the assemblies of packages. -/
  packages : ∀ r ∈ p.references, ∀ package, r.package = some package →
    ∀ a ∈ package.assemblies, IsSettled a.location

theorem lookup_eq_some_of_mem {α β : Type} [BEq α] [LawfulBEq α] {entries : List (α × β)} {a : α}
    {b : β} (hnodup : (entries.map (·.1)).Nodup) (h : (a, b) ∈ entries) :
    entries.lookup a = some b := by
  obtain ⟨before, after, rfl⟩ := List.append_of_mem h
  refine List.lookup_eq_some_iff.mpr ⟨before, after, rfl, fun e he ↦ ?_⟩
  rw [List.map_append, List.map_cons, List.nodup_append] at hnodup
  have hne := hnodup.2.2 e.1 (List.mem_map_of_mem he) a List.mem_cons_self
  simpa using Ne.symm hne

namespace Document

variable {path : Path} {item : Json} {site : Site} {p : WorkspaceProject} {fileName : String}
  {members : Json.Members}

/-! ## Paths in the parts of a project -/

theorem exists_located_of_readPackageAssembly {a : PackageAssembly}
    (h : readPackageAssembly site item = .ok a) : ∃ text, a.location = site.base.located text := by
  unfold readPackageAssembly at h
  split at h
  · split at h
    · obtain rfl := Except.ok.inj h
      exact ⟨_, rfl⟩
    · cases h
  · cases h

theorem exists_located_of_readPackage {value : Option Json} {package : Package}
    (h : readPackage site value = .ok (some package)) :
    ∀ a ∈ package.assemblies, ∃ text, a.location = site.base.located text := by
  unfold readPackage at h
  split at h
  · cases h
  · cases h
  · split at h
    · -- However the list of assemblies comes about, its elements are read one by one.
      obtain ⟨items, assemblies, hassemblies, rfl⟩ : ∃ items assemblies,
          List.mapM (readPackageAssembly site) items = .ok assemblies
            ∧ package.assemblies = assemblies := by
        dsimp only at h
        split at h <;>
        · obtain ⟨items, -, h⟩ := bind_eq_ok_iff.mp h
          obtain ⟨assemblies, hassemblies, h⟩ := bind_eq_ok_iff.mp h
          obtain rfl := Option.some.inj (Except.ok.inj h)
          exact ⟨items, assemblies, hassemblies, rfl⟩
      intro a ha
      obtain ⟨item, -, hitem⟩ := exists_of_mem_mapM hassemblies ha
      exact exists_located_of_readPackageAssembly hitem
    · cases h
  · cases h

theorem exists_located_of_readReference {r : DeclaredReference} {package : Package}
    (h : readReference site item = .ok r) (hpackage : r.package = some package) :
    ∀ a ∈ package.assemblies, ∃ text, a.location = site.base.located text := by
  unfold readReference at h
  split at h
  · obtain ⟨kind, -, h⟩ := bind_eq_ok_iff.mp h
    split at h
    · cases h
    · obtain ⟨hint, -, h⟩ := bind_eq_ok_iff.mp h
      obtain ⟨read, hread, h⟩ := bind_eq_ok_iff.mp h
      obtain rfl := Except.ok.inj h
      obtain rfl : read = some package := hpackage
      exact exists_located_of_readPackage hread
  · cases h

theorem exists_located_of_readFile {f : ProjectFile} (h : readFile site item = .ok f) :
    ∃ text, f.path = site.base.located text := by
  unfold readFile at h
  split at h
  · split at h
    · obtain rfl := Except.ok.inj h
      exact ⟨_, rfl⟩
    · cases h
  · cases h

/-! ## Projects -/

theorem ne_empty_of_nonEmptyString? {field text : String}
    (h : nonEmptyString? members field = some text) : text ≠ "" := by
  unfold nonEmptyString? at h
  split at h
  · split_ifs at h with hempty
    obtain rfl := Option.some.inj h
    simpa using hempty
  · cases h

/-- What is read from the directory of a settled project file is well formed. -/
theorem isWellFormed_of_readContents (hname : site.project ≠ "") (hfile : IsSettled fileName)
    (hread : site.base.IsRead) (habsolute : site.base.isAbsolute = true)
    (h : readContents site fileName members = .ok p) : p.IsWellFormed := by
  have hlocated : ∀ text, (∃ t, text = site.base.located t) → IsSettled text := by
    rintro _ ⟨t, rfl⟩
    exact isSettled_located hread habsolute t
  obtain ⟨hpname, rfl, ⟨read, hconfigurations, hpairs, houtputs⟩, hreferences, hassemblies,
    hfiles⟩ := parts_of_readContents h
  have houtput : ∀ o ∈ p.outputs, ∃ configuration, (o.1, configuration) ∈ p.configurations
      ∧ ∃ item, readConfiguration site o.1 item = .ok (configuration, some o.2) := by
    intro o ho
    rw [houtputs, List.mem_filterMap] at ho
    obtain ⟨⟨key, configuration, explicit⟩, hc, ho⟩ := ho
    obtain ⟨output, rfl, rfl⟩ := Option.map_eq_some_iff.mp ho
    refine ⟨configuration, ?_, exists_readConfiguration hconfigurations hc⟩
    rw [hpairs]
    exact List.mem_map_of_mem hc
  exact {
    name_ne := by rwa [hpname]
    fileName := hfile
    outputs := fun o ho ↦ by
      obtain ⟨configuration, -, item, hitem⟩ := houtput o ho
      exact hlocated _ (output_of_readConfiguration hitem).2
    settings := fun o ho ↦ by
      obtain ⟨configuration, hmem, item, hitem⟩ := houtput o ho
      obtain ⟨settings, rfl, hsettings⟩ := (output_of_readConfiguration hitem).1
      exact ⟨settings, hsettings, hmem, fun hnodup ↦ lookup_eq_some_of_mem hnodup hmem⟩
    hostAssemblies := fun path hpath ↦ hlocated path (hassemblies path hpath)
    files := fun f hf ↦ by
      obtain ⟨item, hitem⟩ := hfiles f hf
      exact hlocated _ (exists_located_of_readFile hitem)
    packages := fun r hr package hpackage a ha ↦ by
      obtain ⟨item, hitem⟩ := hreferences r hr
      exact hlocated _ (exists_located_of_readReference hitem hpackage a ha) }

/-- A project of a document with an absolute path is well formed. -/
theorem isWellFormed_of_readProject (hread : path.IsRead) (habsolute : path.isAbsolute = true)
    (h : readProject path item = .ok p) : p.IsWellFormed := by
  obtain ⟨members, name, file, -, hname, -, -, hcontents⟩ := readProject_eq_ok_iff.mp h
  have hfile : IsSettled (path.parent.located file) :=
    isSettled_located hread.parent (by rwa [Path.isAbsolute_parent]) file
  refine isWellFormed_of_readContents ?_ hfile ?_ ?_ hcontents
  · exact ne_empty_of_nonEmptyString? hname
  · exact (Path.isRead_parse _).parent
  · exact hfile.isAbsolute_parent

end Document

/-! ## Names -/

namespace Workspace

variable {w : Workspace} {p : WorkspaceProject} {name : String}

theorem find?_eq_none_iff : w.find? name = none ↔ name ∉ w.projects.map (·.name) := by
  rw [find?, List.find?_eq_none, List.mem_map]
  simp

/-- The names of the projects that names lead to are the names that lead to a project. -/
theorem map_name_filterMap_find? (references : List DeclaredReference) :
    (references.filterMap fun r ↦ w.find? r.identity).map (·.name)
      = (references.filter fun r ↦ r.identity ∈ w.projects.map (·.name)).map (·.identity) := by
  induction references with
  | nil => rfl
  | cons r rest ih =>
    cases hfind : w.find? r.identity with
    | none =>
      simp only [List.filterMap_cons, hfind]
      rw [ih, List.filter_cons_of_neg (by simpa using find?_eq_none_iff.mp hfind)]
    | some q =>
      have hmem : r.identity ∈ w.projects.map (·.name) := by
        by_contra hnone
        rw [find?_eq_none_iff.mpr hnone] at hfind
        cases hfind
      simp only [List.filterMap_cons, hfind]
      rw [List.map_cons, ih, List.filter_cons_of_pos (by simpa using hmem), List.map_cons,
        name_of_find? hfind]

/-- The projects that one refers to belong to the workspace, and their names are those that it
refers to and that lead to a project, in order. -/
theorem exists_referencedProjects (w : Workspace) (p : WorkspaceProject) :
    ∃ neighbours, neighbours ⊆ w.projects
      ∧ w.referencedProjects p = neighbours.map WorkspaceProject.outside
      ∧ neighbours.map (·.name) = (p.references.filter fun r ↦ r.kind = .project
          ∧ r.sharedAssets = false ∧ r.identity ∈ w.projects.map (·.name)).map (·.identity) := by
  refine ⟨(p.references.filter fun r ↦ r.kind = .project && !r.sharedAssets).filterMap fun r ↦
    w.find? r.identity, fun q hq ↦ ?_, ?_, ?_⟩
  · obtain ⟨r, -, hfind⟩ := List.mem_filterMap.mp hq
    exact List.mem_of_find?_eq_some hfind
  · rw [referencedProjects, List.map_filterMap]
  · rw [map_name_filterMap_find?, List.filter_filter]
    congr 1
    refine List.filter_congr fun r _ ↦ ?_
    cases r.sharedAssets <;> simp [Bool.and_comm]

theorem select_of_find? (h : w.find? name = some p) : w.select (some name) = .ok p := by
  simp only [select, h]

/-- **A workspace that was read is well formed.** If the path of the document is absolute, no name
of a project is empty or repeats, a name leads to its project, all paths are settled, explicit
outputs belong to configurations with compiler settings, and the projects that one refers to are
those of the workspace that its references name, but for references for the sake of shared files. -/
theorem isWellFormed_of_readWorkspace {location : String} {document : Json}
    (hlocation : isRooted location = true)
    (h : Document.readWorkspace (Path.parse location) document = .ok w) :
    (w.projects.map (·.name)).Nodup ∧ ∀ p ∈ w.projects, p.IsWellFormed
      ∧ w.find? p.name = some p ∧ w.select (some p.name) = .ok p
      ∧ ∃ neighbours, neighbours ⊆ w.projects
        ∧ (∀ runtime selector, (w.toProject runtime p).referencedProjects selector
            = neighbours.map WorkspaceProject.outside)
        ∧ neighbours.map (·.name) = (p.references.filter fun r ↦ r.kind = .project
            ∧ r.sharedAssets = false ∧ r.identity ∈ w.projects.map (·.name)).map (·.identity) := by
  obtain ⟨hnames, hitems⟩ := Document.exists_of_readWorkspace h
  refine ⟨hnames, fun p hp ↦ ?_⟩
  obtain ⟨item, hitem⟩ := hitems p hp
  have hfind : w.find? p.name = some p := (find?_eq_some_iff hnames).mpr ⟨hp, rfl⟩
  have habsolute : (Path.parse location).isAbsolute = true := by
    rw [Path.isAbsolute_parse, hlocation]
  obtain ⟨neighbours, hsubset, hneighbours, hreferred⟩ := exists_referencedProjects w p
  exact ⟨Document.isWellFormed_of_readProject (Path.isRead_parse _) habsolute hitem, hfind,
    select_of_find? hfind, neighbours, hsubset, fun _ _ ↦ hneighbours, hreferred⟩

/-! ### An instance -/

/-- A document whose first project lies elsewhere and refers to the second, to nothing and, for the
sake of files, to itself. -/
def scatteredDocument : Json :=
  .object [("format", .string "fsbind-workspace"), ("version", .integer 0), ("projects", .array [
    .object [("name", .string "App"), ("file", .string "../src//App/App.fsproj"),
      ("configurations", .object [
        ("Debug", .object [("output", .string "../bin/./App.exe")]),
        ("Folder", .object [("kind", .string "plain")])]),
      ("references", .array [
        .object [("kind", .string "project"), ("identity", .string "Gone")],
        .object [("kind", .string "project"), ("identity", .string "App"),
          ("shared_assets", .bool true)],
        .object [("kind", .string "project"), ("identity", .string "Lib")]]),
      ("referenced_assemblies", .array [.string "/opt/../X.dll"])],
    .object [("name", .string "Lib"), ("file", .string "Lib.fsproj")]])]

/-- What is seen of it. -/
def scatteredView (p : WorkspaceProject) : String × List (String × String) × List String :=
  (p.name, p.outputs, p.hostAssemblies)

/-- The paths come out normal, and of the references one counts. -/
theorem isWellFormed_of_readWorkspace_scattered : ∃ w p q,
    Document.readWorkspace (Path.parse "/ws/ws.json") scatteredDocument = .ok w
      ∧ w.projects = [p, q] ∧ w.select (some "App") = .ok p
      ∧ p.outputs = [("Debug", "/src/bin/App.exe")] ∧ IsSettled "/src/bin/App.exe"
      ∧ p.hostAssemblies = ["/X.dll"] ∧ IsSettled "/X.dll" := by
  have hview : (Document.readWorkspace (Path.parse "/ws/ws.json") scatteredDocument).toOption.map
      (fun w ↦ w.projects.map scatteredView)
        = some [("App", [("Debug", "/src/bin/App.exe")], ["/X.dll"]), ("Lib", [], [])] := by
    decide +kernel
  obtain ⟨w, hread, hw⟩ := exists_ok_of_map_toOption hview
  obtain ⟨p, rest, hprojects, hp, hrest⟩ := List.map_eq_cons_iff.mp hw
  obtain ⟨q, rest, rfl, -, hrest⟩ := List.map_eq_cons_iff.mp hrest
  obtain rfl := List.map_eq_nil_iff.mp hrest
  obtain ⟨hname, houtputs, hassemblies⟩ : p.name = "App"
      ∧ p.outputs = [("Debug", "/src/bin/App.exe")] ∧ p.hostAssemblies = ["/X.dll"] := by
    simpa [scatteredView] using hp
  obtain ⟨hshape, -, hselect, -⟩ :=
    (isWellFormed_of_readWorkspace rfl hread).2 p (by simp [hprojects])
  refine ⟨w, p, q, hread, hprojects, hname ▸ hselect, houtputs, ?_, hassemblies, ?_⟩
  · exact hshape.outputs ("Debug", "/src/bin/App.exe") (by simp [houtputs])
  · exact hshape.hostAssemblies "/X.dll" (by simp [hassemblies])

end Workspace

end FSharpFlags
