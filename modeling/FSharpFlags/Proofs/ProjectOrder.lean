import FSharpFlags.Flags.Generation
import FSharpFlags.Proofs.DocumentReading
import Mathlib.Data.List.Nodup
import Mathlib.Data.List.Perm.Basic

/-!
# The order of projects in a document

Projects refer to each other by name, and every lookup takes the first project of the name. Because
an accepted document never repeats a name, the first one is the only one, so it does not matter
where in the list it stands. A project sees of its workspace nothing but the results of such
lookups. Two documents that list the same projects in different orders therefore come to the same
flags, project by project, and are accepted or refused together.
-/

namespace FSharpFlags

/-! ## Members of an object -/

namespace Json

variable {members : Members} {key key' : String} {value : Json}

theorem get?_put_self (members : Members) (key : String) (value : Json) :
    get? (put members key value) key = some value := by
  induction members with
  | nil => simp [put, get?]
  | cons m rest ih =>
    obtain ⟨k, v⟩ := m
    rw [put]
    split
    · next h => simp [get?, h]
    · next h =>
      rw [get?, List.lookup_cons, beq_false_of_ne (Ne.symm h)]
      exact ih

theorem get?_put_of_ne (h : key' ≠ key) (members : Members) (value : Json) :
    get? (put members key value) key' = get? members key' := by
  induction members with
  | nil => simp [put, get?, List.lookup_cons, beq_false_of_ne h]
  | cons m rest ih =>
    obtain ⟨k, v⟩ := m
    rw [put]
    split
    · next hk =>
      obtain rfl := hk
      simp [get?, List.lookup_cons, beq_false_of_ne h]
    · next hk =>
      rw [get?, get?, List.lookup_cons, List.lookup_cons]
      rw [get?, get?] at ih
      rw [ih]

/-- Setting the value of a key that is there leaves the keys as they are. -/
theorem map_fst_put (h : get? members key ≠ none) (value : Json) :
    (put members key value).map (·.1) = members.map (·.1) := by
  induction members with
  | nil => exact absurd rfl h
  | cons m rest ih =>
    obtain ⟨k, v⟩ := m
    rw [put]
    split
    · rfl
    · next hk =>
      rw [get?, List.lookup_cons, beq_false_of_ne (Ne.symm hk)] at h
      rw [List.map_cons, List.map_cons, ih h]

end Json

/-! ## Lookups by name -/

namespace Workspace

variable {w w' : Workspace} {name : String} {project : WorkspaceProject}

theorem find?_eq_some_iff (hnames : (w.projects.map (·.name)).Nodup) :
    w.find? name = some project ↔ project ∈ w.projects ∧ project.name = name := by
  constructor
  · intro h
    exact ⟨List.mem_of_find?_eq_some h, by simpa using List.find?_some h⟩
  · rintro ⟨hmem, rfl⟩
    obtain ⟨other, hother⟩ : ∃ other, w.find? project.name = some other :=
      Option.isSome_iff_exists.mp (List.find?_isSome.mpr ⟨project, hmem, by simp⟩)
    have hname : other.name = project.name := by simpa using List.find?_some hother
    rw [hother, List.inj_on_of_nodup_map hnames (List.mem_of_find?_eq_some hother) hmem hname]

theorem find?_eq_of_perm (hnames : (w.projects.map (·.name)).Nodup)
    (hperm : w'.projects.Perm w.projects) (name : String) : w'.find? name = w.find? name := by
  have hnames' : (w'.projects.map (·.name)).Nodup := (hperm.map _).nodup_iff.mpr hnames
  refine Option.ext fun project ↦ ?_
  rw [find?_eq_some_iff hnames, find?_eq_some_iff hnames', hperm.mem_iff]

/-- What a project sees of its workspace are lookups by name. -/
theorem toProject_congr (h : ∀ name, w'.find? name = w.find? name) (runtime : TargetRuntime)
    (project : WorkspaceProject) : w'.toProject runtime project = w.toProject runtime project := by
  simp only [toProject, referencedProjects, h]

end Workspace

/-! ## Documents that list their projects in another order -/

namespace Document

open Json (Members)

variable {path : Path} {members : Members} {items items' : List Json} {w : Workspace}

theorem isSupported_put_projects (members : Members) (value : Json) :
    isSupported (Json.put members "projects" value) = isSupported members := by
  rw [isSupported, isSupported, Json.get?_put_of_ne (by decide), Json.get?_put_of_ne (by decide)]

/-- A document remains accepted when its projects change places, and they are then read alike. -/
theorem exists_readWorkspace_put_projects
    (hitems : Json.get? members "projects" = some (.array items)) (hperm : items'.Perm items)
    (h : readWorkspace path (.object members) = .ok w) :
    ∃ projects, readWorkspace path (.object (Json.put members "projects" (.array items')))
        = .ok { w with projects } ∧ projects.Perm w.projects := by
  obtain ⟨hsupported, hunknown, active, items₀, projects, hactive, hitems₀, hread, hnodup, rfl⟩ :=
    readWorkspace_eq_ok_iff.mp h
  cases hitems.symm.trans hitems₀
  obtain ⟨projects', hread', hprojects⟩ := List.perm_comp_forall₂ hperm hread
  refine ⟨projects', readWorkspace_eq_ok_iff.mpr ⟨?_, ?_, active, items', projects', ?_, ?_, hread',
    ?_, rfl⟩, hprojects⟩
  · rw [isSupported_put_projects, hsupported]
  · rw [unknownKeys, Json.map_fst_put (by simp [hitems])]
    exact hunknown
  · rw [Json.get?_put_of_ne (by decide), hactive]
  · exact Json.get?_put_self _ _ _
  · exact (hprojects.map _).nodup_iff.mpr hnodup

/-- **The order of the projects in a document is of no account.** -/
theorem readWorkspace_perm
    (hitems : Json.get? members "projects" = some (.array items)) (hperm : items'.Perm items)
    (h : readWorkspace path (.object members) = .ok w) :
    ∃ w', readWorkspace path (.object (Json.put members "projects" (.array items'))) = .ok w'
      ∧ w'.activeConfiguration = w.activeConfiguration ∧ w'.projects.Perm w.projects
      ∧ ∀ name, w'.find? name = w.find? name
        ∧ ∀ project, w.find? name = some project → ∀ runtime selection,
          (w'.toProject runtime project).selector selection
              = (w.toProject runtime project).selector selection
            ∧ (w'.toProject runtime project).requireSettings selection
              = (w.toProject runtime project).requireSettings selection
            ∧ (w'.toProject runtime project).compiledFiles
              = (w.toProject runtime project).compiledFiles
            ∧ ∀ fs settings o,
              (w'.toProject runtime project).compilerOptions fs settings selection o
                = (w.toProject runtime project).compilerOptions fs settings selection o := by
  obtain ⟨projects, hread, hprojects⟩ := exists_readWorkspace_put_projects hitems hperm h
  have hnodup : (w.projects.map (·.name)).Nodup := by
    obtain ⟨-, -, _, _, _, -, -, -, hnodup, rfl⟩ := readWorkspace_eq_ok_iff.mp h
    exact hnodup
  have hfind : ∀ name, ({ w with projects } : Workspace).find? name = w.find? name :=
    Workspace.find?_eq_of_perm hnodup hprojects
  refine ⟨_, hread, rfl, hprojects, fun name ↦ ⟨hfind name, fun project _ runtime selection ↦ ?_⟩⟩
  rw [Workspace.toProject_congr hfind]
  exact ⟨rfl, rfl, rfl, fun fs settings o ↦ rfl⟩

/-! ### An instance -/

/-- A document of two projects that refer to each other. -/
def circleOf (items : List Json) : Members :=
  [("format", .string "fsbind-workspace"), ("version", .integer 0), ("projects", .array items)]

/-- The first of them refers to the output of the second. -/
def circleApp : Json :=
  .object [("name", .string "App"), ("file", .string "App.fsproj"),
    ("references", .array [.object [("kind", .string "project"), ("identity", .string "Lib")]])]

/-- The second one shares the files of the first. -/
def circleLib : Json :=
  .object [("name", .string "Lib"), ("file", .string "Lib.fsproj"),
    ("references", .array [.object [("kind", .string "project"), ("identity", .string "App"),
      ("shared_assets", .bool true)]]),
    ("files", .array [.object [("path", .string "Lib.fs")]])]

/-- The two projects change places, and the second is found all the same. -/
theorem readWorkspace_perm_circle :
    ∃ w w',
      readWorkspace (Path.parse "/ws.json") (.object (circleOf [circleApp, circleLib])) = .ok w
      ∧ readWorkspace (Path.parse "/ws.json") (.object (circleOf [circleLib, circleApp])) = .ok w'
      ∧ w.projects.map (·.name) = ["App", "Lib"] ∧ w'.find? "Lib" = w.find? "Lib" := by
  have hread : (readWorkspace (Path.parse "/ws.json")
      (.object (circleOf [circleApp, circleLib]))).toOption.map (·.projects.map (·.name))
        = some ["App", "Lib"] := by decide +kernel
  obtain ⟨w, hw, hnames⟩ := exists_ok_of_map_toOption hread
  obtain ⟨w', hw', -, -, hfind⟩ :=
    readWorkspace_perm rfl (List.Perm.swap circleLib circleApp []).symm hw
  exact ⟨w, w', hw, hw', hnames, (hfind "Lib").1⟩

end Document

end FSharpFlags
