import FSharpFlags.Proofs.PathText
import FSharpFlags.Proofs.ProjectOutput

/-!
# Whether the output ends in what it is compiled to

What a project compiles to is a free text of the document. It is classified twice: for the extension
of the default output, where `exe` and `winexe` are told from everything else, and for the target
kind, where `library` and `module` are, in any case of the letters. The two agree on a text that one
of them knows by name, and on no other: such a text is an executable for the target kind and a
library for the extension. `Exe` is one of them.

What the project is called does not matter for the extension. A name with separators is read as a
path, and its last part is still followed by the extension.
-/

namespace FSharpFlags

/-! ## Two classifications of one text -/

namespace TargetKind

/-- The extension of what is compiled to a target kind. -/
def extension : TargetKind → String
  | .exe => ".exe"
  | .library | .module => ".dll"

/-- Whether a compile target is known by name to the target kind or to the extension. -/
def IsKnown (target : String) : Prop :=
  toLowerCase target = "library" ∨ toLowerCase target = "module" ∨ target = "exe"
    ∨ target = "winexe"

end TargetKind

namespace WorkspaceProject

variable {p : WorkspaceProject}

theorem ofCompileTarget_of_not_isKnown (h : ¬TargetKind.IsKnown p.compileTarget) :
    TargetKind.ofCompileTarget p.compileTarget = .exe ∧ p.outputExtension = ".dll" := by
  simp only [TargetKind.IsKnown, not_or] at h
  obtain ⟨hlibrary, hmodule, hexe, hwinexe⟩ := h
  rw [TargetKind.ofCompileTarget, if_neg hlibrary, if_neg hmodule, outputExtension,
    if_neg (not_or_intro hexe hwinexe)]
  exact ⟨rfl, rfl⟩

theorem extension_ofCompileTarget_of_isKnown (h : TargetKind.IsKnown p.compileTarget) :
    (TargetKind.ofCompileTarget p.compileTarget).extension = p.outputExtension := by
  have hlower : ∀ target ∈ ["exe", "winexe"], toLowerCase target ≠ "library"
      ∧ toLowerCase target ≠ "module" := by decide
  by_cases hexe : p.compileTarget = "exe" ∨ p.compileTarget = "winexe"
  · obtain ⟨hlibrary, hmodule⟩ := hlower p.compileTarget (by simpa using hexe)
    rw [TargetKind.ofCompileTarget, if_neg hlibrary, if_neg hmodule, outputExtension, if_pos hexe]
    rfl
  · rw [TargetKind.ofCompileTarget, outputExtension, if_neg hexe]
    rcases h with hlibrary | hmodule | hname
    · rw [if_pos hlibrary]
      rfl
    · rw [if_neg (by rw [hmodule]; decide), if_pos hmodule]
      rfl
    · exact absurd hname hexe

/-- The two classifications of a compile target agree when one of them knows it by name, and only
then. -/
theorem extension_ofCompileTarget_iff :
    (TargetKind.ofCompileTarget p.compileTarget).extension = p.outputExtension
      ↔ TargetKind.IsKnown p.compileTarget := by
  refine ⟨fun heq ↦ ?_, extension_ofCompileTarget_of_isKnown⟩
  by_contra hunknown
  obtain ⟨hkind, hextension⟩ := ofCompileTarget_of_not_isKnown hunknown
  rw [hkind, hextension] at heq
  exact absurd heq (by decide)

/-! ## The end of the output -/

theorem mem_extensions_outputExtension (p : WorkspaceProject) :
    p.outputExtension ∈ [".exe", ".dll"] := by
  unfold outputExtension
  split_ifs <;> decide

/-- The default output ends in its extension. -/
theorem suffix_outputFile {configuration : String}
    (hnone : p.outputs.lookup configuration = none) :
    p.outputExtension.toList <:+ (p.outputFile configuration).toList := by
  have htable : ∀ extension ∈ [".exe", ".dll"],
      '/' ∉ extension.toList ∧ 2 ≤ extension.toList.length := by decide
  obtain ⟨hslash, hlength⟩ := htable _ p.mem_extensions_outputExtension
  rw [outputFile, hnone]
  exact Path.suffix_text_child hslash hlength _ p.name

/-- The default output ends in no other extension. -/
theorem suffix_outputFile_iff {configuration : String}
    (hnone : p.outputs.lookup configuration = none) (kind : TargetKind) :
    kind.extension.toList <:+ (p.outputFile configuration).toList
      ↔ kind.extension = p.outputExtension := by
  have hlengths : ∀ extension ∈ [".exe", ".dll"], extension.toList.length = 4 := by decide
  have hkind : kind.extension ∈ [".exe", ".dll"] := by cases kind <;> decide
  constructor
  · intro hsuffix
    have hle := List.suffix_of_suffix_length_le hsuffix (suffix_outputFile hnone)
      (by rw [hlengths _ hkind, hlengths _ p.mem_extensions_outputExtension])
    have heq := hle.eq_of_length
      (by rw [hlengths _ hkind, hlengths _ p.mem_extensions_outputExtension])
    exact String.toList_inj.mp heq
  · intro heq
    rw [heq]
    exact suffix_outputFile hnone

end WorkspaceProject

/-! ## The options of a project -/

/-- The kind of an option that sets the target. -/
def CompilerOption.target? : CompilerOption → Option TargetKind
  | .target kind => some kind
  | _ => none

theorem Project.filterMap_target? {fs : FileSystem} {p : Project} {selection : Selection}
    {o : GenerationOptions} {options : List CompilerOption} {settings : CompilerSettings}
    (h : (p.compilerOptions fs settings selection o).outcome = .ok options) :
    options.filterMap CompilerOption.target? = [TargetKind.ofCompileTarget p.compileTarget] :=
  filterMap_compilerOptions (fun _ ↦ rfl) (fun _ ↦ rfl) (fun _ ↦ rfl) (fun _ ↦ rfl) (fun _ ↦ rfl) h

namespace Workspace

variable {fs : FileSystem} {w : Workspace} {p : WorkspaceProject} {runtime : TargetRuntime}
  {settings : CompilerSettings} {selection : Selection} {o : GenerationOptions}
  {options : List CompilerOption}

/-- **The default output ends in what the project is compiled to** when the compile target is known
by name, and only then. Any other compile target is an executable whose output ends in `.dll`. -/
theorem compilerOptions_extension_iff
    (hnone : p.outputs.lookup (p.outside.selector selection) = none)
    (h : ((w.toProject runtime p).compilerOptions fs settings selection o).outcome = .ok options) :
    ∃ output kind, options.filterMap CompilerOption.outputFile? = [output]
      ∧ options.filterMap CompilerOption.target? = [kind]
      ∧ (kind.extension.toList <:+ output.toList ↔ TargetKind.IsKnown p.compileTarget)
      ∧ (¬TargetKind.IsKnown p.compileTarget → kind = .exe ∧ ".dll".toList <:+ output.toList) := by
  refine ⟨_, _, Project.filterMap_outputFile? h, Project.filterMap_target? h, ?_, fun hunknown ↦ ?_⟩
  · exact (WorkspaceProject.suffix_outputFile_iff hnone _).trans
      WorkspaceProject.extension_ofCompileTarget_iff
  · obtain ⟨hkind, hextension⟩ := WorkspaceProject.ofCompileTarget_of_not_isKnown hunknown
    refine ⟨hkind, ?_⟩
    rw [← hextension]
    exact WorkspaceProject.suffix_outputFile hnone

/-! ### Instances -/

/-- The text of a document with one project and a compile target for it. -/
def targetText (target : String) : String :=
  "\x7b\"format\":\"fsbind-workspace\",\"version\":0,\"projects\":["
    ++ "\x7b\"name\":\"A\",\"file\":\"A\",\"compile_target\":\"" ++ target ++ "\"\x7d]\x7d"

/-- A file system with that document. -/
def targetFiles (target : String) : FileSystem where
  root := .directory [("ws.json", .file (targetText target).toUTF8 false)] false
  currentDirectory := "/"

/-- A file system without files. -/
def emptyFiles : FileSystem where
  root := .emptyDirectory
  currentDirectory := "/"

/-- Options without a place for default references. -/
def placeless : GenerationOptions := { runtimeOptions with env := {} }

/-- What a reader sees of a project and its options. -/
structure TargetView where
  /-- What the project compiles to. -/
  compileTarget : String
  /-- The explicit output. -/
  explicit : Option String
  /-- What the options set as outputs and targets. -/
  sets : Option (List String × List TargetKind)
  deriving DecidableEq

/-- What a reader sees of the document. -/
def targetViews (w : Workspace) : List TargetView :=
  w.projects.map fun p ↦ {
    compileTarget := p.compileTarget
    explicit := p.outputs.lookup (p.outside.selector {})
    sets := ((w.toProject (hostedProject []).runtime p).compilerOptions emptyFiles
        { name := "Default" } {} placeless).outcome.toOption.map fun options ↦
      (options.filterMap CompilerOption.outputFile?, options.filterMap CompilerOption.target?) }

theorem exists_of_targetViews {target output : String} {kind : TargetKind}
    (h : (Workspace.load (targetFiles target) (Path.parse "/ws.json")).toOption.map targetViews
      = some [⟨target, none, some ([output], [kind])⟩]) :
    ∃ w p options, Workspace.load (targetFiles target) (Path.parse "/ws.json") = .ok w
      ∧ w.projects = [p] ∧ p.compileTarget = target
      ∧ p.outputs.lookup (p.outside.selector {}) = none
      ∧ ((w.toProject (hostedProject []).runtime p).compilerOptions emptyFiles
          { name := "Default" } {} placeless).outcome = .ok options
      ∧ options.filterMap CompilerOption.outputFile? = [output]
      ∧ options.filterMap CompilerOption.target? = [kind] := by
  obtain ⟨w, hload, hw⟩ := exists_ok_of_map_toOption h
  obtain ⟨p, rest, hprojects, hp, hrest⟩ := List.map_eq_cons_iff.mp hw
  obtain rfl := List.map_eq_nil_iff.mp hrest
  obtain ⟨htarget, hnone, hp⟩ := TargetView.mk.inj hp
  obtain ⟨options, hoptions, hsets⟩ := exists_ok_of_map_toOption hp
  obtain ⟨houtput, hkind⟩ := Prod.mk.inj hsets
  exact ⟨w, p, options, hload, hprojects, htarget, hnone, hoptions, houtput, hkind⟩

/-- `Library` is known by name, and the output ends in `.dll`. -/
theorem compilerOptions_extension_library : ∃ w p options output kind,
    Workspace.load (targetFiles "Library") (Path.parse "/ws.json") = .ok w ∧ w.projects = [p]
      ∧ p.outputs.lookup (p.outside.selector {}) = none
      ∧ ((w.toProject (hostedProject []).runtime p).compilerOptions emptyFiles
          { name := "Default" } {} placeless).outcome = .ok options
      ∧ options.filterMap CompilerOption.outputFile? = [output]
      ∧ options.filterMap CompilerOption.target? = [kind]
      ∧ kind.extension.toList <:+ output.toList := by
  have hview : (Workspace.load (targetFiles "Library") (Path.parse "/ws.json")).toOption.map
      targetViews = some [⟨"Library", none, some (["/bin/Default/A.dll"], [.library])⟩] := by
    decide +kernel
  obtain ⟨w, p, options, hload, hprojects, htarget, hnone, hoptions, -⟩ :=
    exists_of_targetViews hview
  obtain ⟨output, kind, houtput, hkind, hextension, -⟩ :=
    compilerOptions_extension_iff hnone hoptions
  refine ⟨w, p, options, output, kind, hload, hprojects, hnone, hoptions, houtput, hkind,
    hextension.mpr (.inl ?_)⟩
  rw [htarget]
  decide

/-- `Exe` is compiled to an executable whose output ends in `.dll`. -/
theorem compilerOptions_extension_capital : ∃ w p options,
    Workspace.load (targetFiles "Exe") (Path.parse "/ws.json") = .ok w ∧ w.projects = [p]
      ∧ p.outputs.lookup (p.outside.selector {}) = none
      ∧ ((w.toProject (hostedProject []).runtime p).compilerOptions emptyFiles
          { name := "Default" } {} placeless).outcome = .ok options
      ∧ options.filterMap CompilerOption.target? = [.exe]
      ∧ options.filterMap CompilerOption.outputFile? = ["/bin/Default/A.dll"]
      ∧ ¬".exe".toList <:+ "/bin/Default/A.dll".toList := by
  have hview : (Workspace.load (targetFiles "Exe") (Path.parse "/ws.json")).toOption.map
      targetViews = some [⟨"Exe", none, some (["/bin/Default/A.dll"], [.exe])⟩] := by
    decide +kernel
  obtain ⟨w, p, options, hload, hprojects, -, hnone, hoptions, houtput, hkind⟩ :=
    exists_of_targetViews hview
  exact ⟨w, p, options, hload, hprojects, hnone, hoptions, hkind, houtput, by decide⟩

end Workspace

end FSharpFlags
