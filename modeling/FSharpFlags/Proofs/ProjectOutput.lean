import FSharpFlags.Proofs.ProjectOrder
import FSharpFlags.Proofs.ReferenceList
import FSharpFlags.Proofs.RootedPath
import FSharpFlags.Proofs.Stripping

/-!
# A reference to a project is one to what the project builds

The output of a project comes up in two places. The project itself writes it: it is one of its
compiler options. A project that refers to it reads it, after a search among the projects that it
refers to. The two agree when the search ends at the project that is meant, which is so because
names do not repeat, and when both take the same configuration.

That the output then is among the references needs one more thing, that it is not mistaken for a
bare mention of the language core. Such a mention has no directory, and an output always has one.
-/

namespace FSharpFlags

/-- The path of an option that sets the output. -/
def CompilerOption.outputFile? : CompilerOption → Option String
  | .outputFile path => some path
  | _ => none

/-! ## Bare mentions -/

namespace FileName

variable {cs : List Char}

theorem withoutMarker_of_not_mem (h : '\\' ∉ cs) : withoutMarker cs = cs := by
  unfold withoutMarker
  split
  · exact absurd List.mem_cons_self h
  · exact absurd List.mem_cons_self h
  · rfl

theorem afterShare?_of_not_mem (h : '\\' ∉ cs) : afterShare? cs = none := by
  unfold afterShare?
  split
  · exact absurd List.mem_cons_self h
  · rfl

theorem afterDrive_suffix (cs : List Char) : afterDrive cs <:+ cs := by
  unfold afterDrive
  split
  · next letter rest =>
    split_ifs
    · exact (List.suffix_cons ':' rest).trans (List.suffix_cons letter _)
    · exact List.suffix_rfl
  · exact List.suffix_rfl

/-- What is absolute on a system with drives has a separator, as one of either kind is the root. -/
theorem mem_backslashed_of_isAbsolute (h : isAbsolute cs = true) : '\\' ∈ backslashed cs := by
  by_contra hnone
  have hroot : (afterDrive (backslashed cs)).head? ≠ some '\\' := fun hhead ↦
    hnone ((afterDrive_suffix _).subset (List.mem_of_mem_head? hhead))
  simp [isAbsolute, withoutMarker_of_not_mem hnone, afterShare?_of_not_mem hnone, hroot] at h

end FileName

/-- A path with a character that stripping and folding leave alone, and that no mention of the
language core has, is not stripped and folded to such a mention. -/
theorem contains_foldCase_eq_false_of_char {path : String} {c : Char} (h : c ∈ path.toList)
    (hblank : Text.isBlank c = false) (hfold : c ∈ Text.caseFolding.map c)
    (hnone : ∀ name ∈ ["fsharp.core", "fsharp.core.dll"], c ∉ name.toList) :
    ["fsharp.core", "fsharp.core.dll"].contains (foldCase (String.ofList (Text.strip path.toList)))
      = false := by
  have hfolded : c ∈ (foldCase (String.ofList (Text.strip path.toList))).toList := by
    rw [foldCase, String.toList_ofList, String.toList_ofList, Text.caseFold, List.mem_flatMap]
    exact ⟨c, Text.mem_strip_of_mem h hblank, hfold⟩
  rw [← Bool.not_eq_true, List.contains_iff_mem]
  exact fun hbare ↦ hnone _ hbare hfolded

/-- **A bare mention is known by its text alone.** What is absolute on either kind of system has a
separator and could not be one, so asking for it beforehand makes no difference. -/
theorem isBareLanguageCore_eq (path : String) :
    isBareLanguageCore path = ["fsharp.core", "fsharp.core.dll"].contains
      (foldCase (String.ofList (Text.strip path.toList))) := by
  unfold isBareLanguageCore
  split
  · next habsolute =>
    rcases Bool.or_eq_true_iff.mp habsolute with habsolute | habsolute
    · obtain ⟨c, hc, hseparator⟩ :=
        List.mem_map.mp (FileName.mem_backslashed_of_isAbsolute habsolute)
      split_ifs at hseparator with hslash
      · rw [hslash] at hc
        exact (contains_foldCase_eq_false_of_char hc (by decide) (by decide) (by decide)).symm
      · rw [hseparator] at hc
        exact (contains_foldCase_eq_false_of_char hc (by decide) (by decide) (by decide)).symm
    · rw [Path.isAbsolute_parse, isRooted_iff] at habsolute
      exact (contains_foldCase_eq_false_of_char (List.mem_of_mem_head? habsolute) (by decide)
        (by decide) (by decide)).symm
  · rfl

theorem isBareLanguageCore_eq_false_of_char {path : String} {c : Char} (h : c ∈ path.toList)
    (hblank : Text.isBlank c = false) (hfold : c ∈ Text.caseFolding.map c)
    (hnone : ∀ name ∈ ["fsharp.core", "fsharp.core.dll"], c ∉ name.toList) :
    isBareLanguageCore path = false := by
  rw [isBareLanguageCore_eq, contains_foldCase_eq_false_of_char h hblank hfold hnone]

/-- A path with a directory is no bare mention of the language core. -/
theorem isBareLanguageCore_eq_false_of_mem {path : String} (h : '/' ∈ path.toList) :
    isBareLanguageCore path = false :=
  isBareLanguageCore_eq_false_of_char h (by decide) (by decide) (by decide)

theorem isBareLanguageCore_eq_false_of_isRooted {path : String} (h : isRooted path = true) :
    isBareLanguageCore path = false := by
  rw [isRooted_iff] at h
  exact isBareLanguageCore_eq_false_of_mem (List.mem_of_mem_head? (h ▸ rfl))

/-! ## Outputs have a directory -/

namespace Document

variable {path : Path} {item : Json} {project : WorkspaceProject}

theorem isRooted_located {base : Path} (h : base.isAbsolute = true) (text : String) :
    isRooted (base.located text) = true := by
  refine Path.isRooted_text ?_
  rw [Path.isAbsolute_normal]
  exact Path.isAbsolute_child h text

/-- Seen from an absolute path, the output of a project is rooted under every configuration. -/
theorem isRooted_outputFile (hpath : path.isAbsolute = true)
    (h : readProject path item = .ok project) (configuration : String) :
    isRooted (project.outputFile configuration) = true := by
  obtain ⟨members, name, file, -, -, -, -, hcontents⟩ := readProject_eq_ok_iff.mp h
  have hbase : (Path.parse (path.parent.located file)).parent.isAbsolute = true := by
    rw [Path.isAbsolute_parent, Path.isAbsolute_parse]
    exact isRooted_located (by rwa [Path.isAbsolute_parent]) file
  obtain ⟨-, hfile, ⟨configurations, hread, -, houtputs⟩, -⟩ := parts_of_readContents hcontents
  unfold WorkspaceProject.outputFile
  split
  · next output hlookup =>
    obtain ⟨before, after, hsplit, -⟩ := List.lookup_eq_some_iff.mp hlookup
    have hmem : (configuration, output) ∈ project.outputs := by rw [hsplit]; simp
    rw [houtputs, List.mem_filterMap] at hmem
    obtain ⟨⟨key, settings, explicit⟩, hc, houtput⟩ := hmem
    obtain ⟨_, rfl, hpair⟩ := Option.map_eq_some_iff.mp houtput
    obtain ⟨-, rfl⟩ := Prod.mk.inj hpair
    obtain ⟨value, hvalue⟩ := exists_readConfiguration hread hc
    obtain ⟨text, rfl⟩ := (output_of_readConfiguration hvalue).2
    exact isRooted_located hbase text
  · have hdirectory : project.directory.isAbsolute = true := by
      rw [WorkspaceProject.directory, hfile]
      exact hbase
    exact Path.isRooted_text_child (Path.isAbsolute_child (Path.isAbsolute_child hdirectory _) _) _

end Document

/-! ## The search among the projects referred to -/

namespace Workspace

variable {w : Workspace} {p : WorkspaceProject} {r : DeclaredReference} {identity : String}

theorem name_of_find? {q : WorkspaceProject} (h : w.find? identity = some q) :
    q.name = identity := by
  simpa using List.find?_some h

theorem mem_referencedProjects_iff {outside : ProjectOutside} :
    outside ∈ w.referencedProjects p ↔ ∃ s ∈ p.references, s.kind = .project
      ∧ s.sharedAssets = false ∧ ∃ q, w.find? s.identity = some q ∧ q.outside = outside := by
  simp only [referencedProjects, List.mem_filterMap, List.mem_filter, Bool.and_eq_true,
    decide_eq_true_eq, Bool.not_eq_true', Option.map_eq_some_iff, and_assoc]

/-- A project that is referred to is the one of its name in the workspace. -/
theorem map_find?_of_mem_referencedProjects {outside : ProjectOutside}
    (h : outside ∈ w.referencedProjects p) :
    (w.find? outside.name).map WorkspaceProject.outside = some outside := by
  obtain ⟨s, -, -, -, q, hq, rfl⟩ := mem_referencedProjects_iff.mp h
  have hname : q.outside.name = s.identity := name_of_find? hq
  rw [hname, hq, Option.map_some]

/-- Among the projects referred to, a name leads to the project that has it in the workspace. -/
theorem find?_referencedProjects (hr : r ∈ p.references) (hkind : r.kind = .project)
    (hshared : r.sharedAssets = false) :
    (w.referencedProjects p).find? (·.name = r.identity)
      = (w.find? r.identity).map WorkspaceProject.outside := by
  cases hfind : (w.referencedProjects p).find? (·.name = r.identity) with
  | none =>
    rw [eq_comm, Option.map_eq_none_iff, Option.eq_none_iff_forall_ne_some]
    intro q hq
    have hmem : q.outside ∈ w.referencedProjects p :=
      mem_referencedProjects_iff.mpr ⟨r, hr, hkind, hshared, q, hq, rfl⟩
    exact List.find?_eq_none.mp hfind _ hmem (decide_eq_true (name_of_find? hq))
  | some outside =>
    have hname : outside.name = r.identity := by simpa using List.find?_some hfind
    rw [← hname, map_find?_of_mem_referencedProjects (List.mem_of_find?_eq_some hfind)]

/-- A name that is not referred to, save for its files, leads nowhere. -/
theorem find?_referencedProjects_eq_none
    (h : (∀ s ∈ p.references, s.kind = .project → s.identity = identity → s.sharedAssets = true)
      ∨ ∀ q ∈ w.projects, q.name ≠ identity) :
    (w.referencedProjects p).find? (·.name = identity) = none := by
  rw [List.find?_eq_none]
  intro outside houtside
  obtain ⟨s, hs, hkind, hshared, q, hq, rfl⟩ := mem_referencedProjects_iff.mp houtside
  rw [decide_eq_true_eq]
  rintro (hname : q.name = identity)
  rcases h with h | h
  · rw [h s hs hkind ((name_of_find? hq).symm.trans hname)] at hshared
    cases hshared
  · exact h q (List.mem_of_find?_eq_some hq) hname

end Workspace

/-! ## The output among the options -/

namespace Project

variable {fs : FileSystem} {p : Project} {selection : Selection} {o : GenerationOptions}
  {options : List CompilerOption} {settings : CompilerSettings}

/-- What is seen in the settings that every project has, and in no flag, definition, reference,
resource or source file, is seen in the options once. -/
theorem filterMap_compilerOptions {α : Type} {view : CompilerOption → Option α}
    (hflag : ∀ text, view (.rawFlag text) = none) (hdefine : ∀ symbol, view (.define symbol) = none)
    (hreference : ∀ path, view (.reference path) = none)
    (hresource : ∀ r : String × String, view (.resource r.1 r.2) = none)
    (hsource : ∀ path, view (.sourceFile path) = none)
    (h : (p.compilerOptions fs settings selection o).outcome = .ok options) :
    options.filterMap view = [.outputFile (p.outputFile (p.selector selection)),
      .debug settings.debugLevel, .optimize settings.optimize, .tailcalls settings.tailcalls,
      .target (TargetKind.ofCompileTarget p.compileTarget)].filterMap view := by
  obtain ⟨references, hreferences, h⟩ := Attempt.outcome_bind_eq_ok_iff.mp h
  obtain ⟨extra, -, h⟩ := Attempt.outcome_bind_eq_ok_iff.mp h
  obtain rfl := Except.ok.inj h
  obtain ⟨paths, -, rfl⟩ := exists_of_referenceOptions hreferences
  have hnone : ∀ {β : Type} (f : β → CompilerOption) (as : List β),
      (∀ b, view (f b) = none) → (as.map f).filterMap view = [] := by
    intro β f as hf
    rw [List.filterMap_map, List.filterMap_eq_nil_iff]
    exact fun b _ ↦ hf b
  have hskip : ∀ text rest, (CompilerOption.rawFlag text :: rest).filterMap view
      = rest.filterMap view := fun text rest ↦ List.filterMap_cons_none (hflag text)
  have hleading : (p.leadingOptions settings selection).filterMap view
      = [.outputFile (p.outputFile (p.selector selection)), .debug settings.debugLevel,
        .optimize settings.optimize, .tailcalls settings.tailcalls,
        .target (TargetKind.ofCompileTarget p.compileTarget)].filterMap view := by
    simp only [leadingOptions, List.filterMap_append, hnone .define _ hdefine, hskip]
    rw [← List.singleton_append (l := [_, _, _, _]), List.filterMap_append]
    cases p.isPortable <;> simp [hskip]
  simp only [List.filterMap_append, hleading, resourceOptions, hnone .rawFlag _ hflag,
    hnone .reference _ hreference, hnone .sourceFile _ hsource,
    hnone (fun r : String × String ↦ .resource r.1 r.2) _ hresource, List.append_nil]

/-- The options of a project set its output once. -/
theorem filterMap_outputFile?
    (h : (p.compilerOptions fs settings selection o).outcome = .ok options) :
    options.filterMap CompilerOption.outputFile? = [p.outputFile (p.selector selection)] :=
  filterMap_compilerOptions (fun _ ↦ rfl) (fun _ ↦ rfl) (fun _ ↦ rfl) (fun _ ↦ rfl) (fun _ ↦ rfl) h

/-- What a declared reference stands for is among the references, a bare mention of the language
core excepted. -/
theorem exists_reference_of_mem_pathsOf {r : DeclaredReference} {paths : List String}
    {path : String} (hr : r ∈ p.references) (hpaths : p.pathsOf fs selection r = .ok paths)
    (hpath : path ∈ paths) (hbare : isBareLanguageCore path = false)
    (h : (p.referenceOptions fs selection o).outcome = .ok options) :
    ∃ q, .reference q ∈ options ∧ referenceKey q = referenceKey path := by
  have hflatten : ∀ {located : List (List String)},
      p.references.mapM (p.pathsOf fs selection) = .ok located → path ∈ located.flatten :=
    fun hlocated ↦ (mem_flatten_iff_of_mapM hlocated).mpr ⟨r, hr, paths, hpaths, hpath⟩
  cases hp : p.isPortable with
  | true =>
    obtain ⟨located, libraries, hlocated, -, rfl⟩ :=
      exists_of_referenceOptions_of_isPortable hp h
    obtain ⟨q, hq, hkey⟩ := exists_mem_firstOfEachKey
      (List.mem_append_left libraries (hflatten hlocated))
    exact ⟨q, List.mem_map_of_mem hq, hkey⟩
  | false =>
    obtain ⟨all, hall, rfl⟩ := exists_of_referenceOptions h
    obtain ⟨set, result, hreconciled, rfl⟩ := exists_of_referencePaths hp hall
    obtain ⟨located, facades, hlocated, -, rfl⟩ :=
      exists_of_candidateSet (reconciled_eq_ok_iff.mp hreconciled).1
    obtain ⟨q, hq, hkey⟩ := exists_mem_firstOfEachKey (mem_filter_isBareLanguageCore
      (List.mem_append_left facades (List.mem_append_left
        (p.referencedAssemblies (p.selector selection)) (hflatten hlocated))) hbare)
    rw [ReferenceSet.paths_ofList]
    exact ⟨q, List.mem_map_of_mem (List.mem_append_right _ hq), hkey⟩

end Project

namespace Workspace

variable {fs : FileSystem} {path : Path} {w : Workspace} {p : WorkspaceProject}
  {r : DeclaredReference}

/-- **A reference to a project names what the project builds.** In a workspace from an absolute
path, it stands for the one path that the other project sets as its output under the same
selection, and that path is among the references, up to its key. A reference for the sake of shared
files alone stands for nothing, nor does one to a name that is not there. -/
theorem pathsOf_project (hpath : path.isAbsolute = true) (hload : Workspace.load fs path = .ok w)
    (hr : r ∈ p.references) (hkind : r.kind = .project)
    (runtime : TargetRuntime) (selection : Selection) :
    (r.sharedAssets = false → ∀ q ∈ w.projects, q.name = r.identity → ∃ output,
      (∀ fs', (w.toProject runtime p).pathsOf fs' selection r = .ok [output])
        ∧ (∀ fs' settings o options,
          ((w.toProject runtime q).compilerOptions fs' settings selection o).outcome = .ok options →
            options.filterMap CompilerOption.outputFile? = [output])
        ∧ ∀ fs' o options,
          ((w.toProject runtime p).referenceOptions fs' selection o).outcome = .ok options →
            ∃ entry, .reference entry ∈ options ∧ referenceKey entry = referenceKey output)
      ∧ ((∀ s ∈ p.references, s.kind = .project → s.identity = r.identity → s.sharedAssets = true)
          ∨ (∀ q ∈ w.projects, q.name ≠ r.identity) →
        ∀ fs', (w.toProject runtime p).pathsOf fs' selection r = .ok []) := by
  obtain ⟨document, hdocument⟩ := exists_readWorkspace_of_load hload
  obtain ⟨hnames, hitems⟩ := Document.exists_of_readWorkspace hdocument
  have hsearch : ∀ fs', (w.toProject runtime p).pathsOf fs' selection r
      = .ok ((w.toProject runtime p).outputPaths selection r.identity) := by
    intro fs'
    rw [Project.pathsOf, hkind]
  have hneighbours : (w.toProject runtime p).neighbours selection = w.referencedProjects p := rfl
  constructor
  · intro hshared q hq hname
    have hpaths : ∀ fs', (w.toProject runtime p).pathsOf fs' selection r
        = .ok [q.outputFile (q.outside.selector selection)] := by
      intro fs'
      rw [hsearch, Project.outputPaths, hneighbours, find?_referencedProjects hr hkind hshared,
        (find?_eq_some_iff hnames).mpr ⟨hq, hname⟩]
      rfl
    refine ⟨_, hpaths, fun fs' settings o options h ↦ Project.filterMap_outputFile? h, ?_⟩
    intro fs' o options h
    obtain ⟨item, hitem⟩ := hitems q hq
    exact Project.exists_reference_of_mem_pathsOf hr (hpaths fs') List.mem_cons_self
      (isBareLanguageCore_eq_false_of_isRooted (Document.isRooted_outputFile hpath hitem _)) h
  · intro hnone fs'
    rw [hsearch, Project.outputPaths, hneighbours, find?_referencedProjects_eq_none hnone]

/-! ### An instance -/

/-- The text of a document in which one project refers to another. -/
def linkedText : String :=
  "\x7b\"format\":\"fsbind-workspace\",\"version\":0,\"projects\":["
    ++ "\x7b\"name\":\"A\",\"file\":\"A\",\"references\":[\x7b\"kind\":\"project\",\"identity\":\"B\"\x7d]\x7d,"
    ++ "\x7b\"name\":\"B\",\"file\":\"B\"\x7d]\x7d"

/-- A file system with that document. -/
def linkedFiles : FileSystem where
  root := .directory [("ws.json", .file linkedText.toUTF8 false)] false
  currentDirectory := "/"

/-- What a reader sees of the document: the names, the references and what they stand for. -/
def linkedView (runtime : TargetRuntime) (w : Workspace) :
    List (String × List (DeclaredReference × Option (List String))) :=
  w.projects.map fun p ↦ (p.name, p.references.map fun r ↦
    (r, ((w.toProject runtime p).pathsOf linkedFiles {} r).toOption))

/-- The first project refers to the default output of the second, which the second sets. -/
theorem pathsOf_project_linked : ∃ w p q r,
    Workspace.load linkedFiles (Path.parse "/ws.json") = .ok w ∧ w.projects = [p, q]
      ∧ p.references = [r]
      ∧ (w.toProject (hostedProject []).runtime p).pathsOf linkedFiles {} r
        = .ok ["/bin/Default/B.exe"]
      ∧ ∀ fs settings o options,
        ((w.toProject (hostedProject []).runtime q).compilerOptions fs settings {} o).outcome
            = .ok options →
          options.filterMap CompilerOption.outputFile? = ["/bin/Default/B.exe"] := by
  have hview : (Workspace.load linkedFiles (Path.parse "/ws.json")).toOption.map
      (linkedView (hostedProject []).runtime)
        = some [("A", [({ kind := .project, identity := "B" }, some ["/bin/Default/B.exe"])]),
          ("B", [])] := by decide +kernel
  obtain ⟨w, hload, hw⟩ := exists_ok_of_map_toOption hview
  obtain ⟨p, rest, hprojects, hp, hrest⟩ := List.map_eq_cons_iff.mp hw
  obtain ⟨q, rest, rfl, hq, hrest⟩ := List.map_eq_cons_iff.mp hrest
  obtain rfl := List.map_eq_nil_iff.mp hrest
  obtain ⟨r, rest, hreferences, hr, hrest⟩ := List.map_eq_cons_iff.mp (Prod.mk.inj hp).2
  obtain rfl := List.map_eq_nil_iff.mp hrest
  obtain ⟨rfl, hpaths⟩ := Prod.mk.inj hr
  obtain ⟨output, houtput, hset, -⟩ := (pathsOf_project rfl hload (hreferences ▸ List.mem_cons_self)
    rfl (hostedProject []).runtime {}).1 rfl q (by simp [hprojects]) (Prod.mk.inj hq).1
  rw [houtput linkedFiles] at hpaths
  obtain rfl : output = "/bin/Default/B.exe" := by simpa [Except.toOption] using hpaths
  exact ⟨w, p, q, _, hload, hprojects, hreferences, houtput linkedFiles, hset⟩

end Workspace

end FSharpFlags
