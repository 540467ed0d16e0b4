import FSharpFlags.Proofs.FlagAssembly

/-!
# The references among the flags

Where references lie depends on the machine: on its file system, on the compiler environment and on
what can be read from assembly files. Everything else that goes into the flags of a project is said
by the project, its configuration and the selection alone. So the flags fall into a frame that is
the same on every machine and one block of references inside of it: in front of the block stand the
flags about the compilation as a whole, behind it the items of the project.

A portable project has its references from its own declarations and its profile, so that over one
file system nothing is left that the environment could change.
-/

namespace FSharpFlags

namespace CompilerOption

/-- Whether the option is an item of the project: a resource or a source file. -/
def isItem : CompilerOption → Bool
  | .resource _ _ => true
  | .sourceFile _ => true
  | _ => false

/-- Whether the option is about the compilation as a whole. -/
def isGeneral (option : CompilerOption) : Bool := !option.isReference && !option.isItem

variable {before after : List CompilerOption}

/-- Whether options may stand around a block of references: general ones in front of it and items
behind it. -/
structure IsFrame (before after : List CompilerOption) : Prop where
  /-- What stands in front is about the compilation as a whole. -/
  general : ∀ option ∈ before, option.isGeneral = true
  /-- What stands behind is an item of the project. -/
  items : ∀ option ∈ after, option.isItem = true

/-- Without the references, the frame is left. -/
theorem IsFrame.filter_eq (h : IsFrame before after) (paths : List String) :
    (before ++ paths.map CompilerOption.reference ++ after).filter
        (fun option ↦ !option.isReference) = before ++ after := by
  have hbefore : before.filter (fun option ↦ !option.isReference) = before :=
    List.filter_eq_self.mpr fun option hoption ↦
      (Bool.and_eq_true_iff.mp (h.general option hoption)).1
  have hafter : after.filter (fun option ↦ !option.isReference) = after := by
    refine List.filter_eq_self.mpr fun option hoption ↦ ?_
    have hitem := h.items option hoption
    cases option with
    | reference path => cases hitem
    | _ => rfl
  have hpaths : (paths.map reference).filter (fun option ↦ !option.isReference) = [] := by
    rw [List.filter_eq_nil_iff, List.forall_mem_map]
    exact fun path _ ↦ Bool.false_ne_true
  rw [List.filter_append, List.filter_append, hbefore, hpaths, hafter, List.append_nil]

end CompilerOption

open CompilerOption (IsFrame)

namespace Project

variable {fs fs' : FileSystem} {p : Project} {settings : CompilerSettings} {selection : Selection}
  {o o' : GenerationOptions} {options options' : List CompilerOption}

/-- The options in front of the references, with the extra flags of the configuration last. -/
def optionsBefore (p : Project) (settings : CompilerSettings) (selection : Selection)
    (extra : List String) : List CompilerOption :=
  p.leadingOptions settings selection ++ extra.map .rawFlag

/-- The options behind the references. -/
def optionsAfter (p : Project) : List CompilerOption :=
  p.resourceOptions ++ p.compiledFiles.map .sourceFile

theorem isGeneral_of_mem_leadingOptions {option : CompilerOption}
    (h : option ∈ p.leadingOptions settings selection) : option.isGeneral = true := by
  revert option
  simp only [leadingOptions, List.forall_mem_append, List.forall_mem_cons, List.forall_mem_map]
  have hprofile : ∀ option ∈ if p.isPortable then [CompilerOption.rawFlag "--targetprofile:netcore"]
      else [], option.isGeneral = true := by
    split
    · simp [CompilerOption.isGeneral, CompilerOption.isReference, CompilerOption.isItem]
    · simp
  refine ⟨⟨⟨⟨?_, hprofile⟩, ?_⟩, fun symbol _ ↦ rfl⟩, ?_⟩
  all_goals simp [CompilerOption.isGeneral, CompilerOption.isReference, CompilerOption.isItem]

theorem isFrame (p : Project) (settings : CompilerSettings) (selection : Selection)
    (extra : List String) : IsFrame (p.optionsBefore settings selection extra) p.optionsAfter := by
  constructor
  · intro option hoption
    rcases List.mem_append.mp hoption with hleading | hextra
    · exact isGeneral_of_mem_leadingOptions hleading
    · obtain ⟨flag, -, rfl⟩ := List.mem_map.mp hextra
      rfl
  · intro option hoption
    rcases List.mem_append.mp hoption with hresource | hsource
    · obtain ⟨resource, -, rfl⟩ := List.mem_map.mp hresource
      rfl
    · obtain ⟨path, -, rfl⟩ := List.mem_map.mp hsource
      rfl

/-- The options of a project are its references in their frame. -/
theorem exists_of_compilerOptions
    (h : (p.compilerOptions fs settings selection o).outcome = .ok options) :
    ∃ extra paths, (splitExtraFlags settings.otherFlags).outcome = .ok extra
      ∧ (p.referencePaths fs selection o).outcome = .ok paths
      ∧ options = p.optionsBefore settings selection extra ++ paths.map .reference
        ++ p.optionsAfter := by
  obtain ⟨references, hreferences, h⟩ := Attempt.outcome_bind_eq_ok_iff.mp h
  obtain ⟨extra, hextra, h⟩ := Attempt.outcome_bind_eq_ok_iff.mp h
  obtain ⟨paths, hpaths, rfl⟩ := exists_of_referenceOptions hreferences
  obtain rfl := Except.ok.inj h
  exact ⟨extra, paths, hextra, hpaths, List.append_assoc _ _ _⟩

/-- The options of a portable project do not depend on the environment, and neither do the events
on the way to them. -/
theorem compilerOptions_of_isPortable (hp : p.isPortable = true) (o o' : GenerationOptions) :
    p.compilerOptions fs settings selection o = p.compilerOptions fs settings selection o' := by
  rw [compilerOptions, compilerOptions, referenceOptions_of_isPortable hp,
    referenceOptions_of_isPortable hp]

/-- **Only the references depend on the environment.** Whatever the file systems and the options of
two runs are, the flags of a project have the same frame around one block of references. For a
portable project it takes another file system to make a difference. -/
theorem compilerOptions_agree
    (h : (p.compilerOptions fs settings selection o).outcome = .ok options)
    (h' : (p.compilerOptions fs' settings selection o').outcome = .ok options') :
    (∃ before after paths paths', IsFrame before after
        ∧ (p.referencePaths fs selection o).outcome = .ok paths
        ∧ (p.referencePaths fs' selection o').outcome = .ok paths'
        ∧ options = before ++ paths.map .reference ++ after
        ∧ options' = before ++ paths'.map .reference ++ after)
      ∧ options.filter (fun option ↦ !option.isReference)
        = options'.filter (fun option ↦ !option.isReference)
      ∧ (p.isPortable = true → fs = fs' → options = options') := by
  obtain ⟨extra, paths, hextra, hpaths, hoptions⟩ := exists_of_compilerOptions h
  obtain ⟨extra', paths', hextra', hpaths', hoptions'⟩ := exists_of_compilerOptions h'
  obtain rfl : extra = extra' := Except.ok.inj (hextra.symm.trans hextra')
  have hframe := isFrame p settings selection extra
  refine ⟨⟨_, _, paths, paths', hframe, hpaths, hpaths', hoptions, hoptions'⟩, ?_, ?_⟩
  · rw [hoptions, hoptions', hframe.filter_eq, hframe.filter_eq]
  · rintro hp rfl
    rw [compilerOptions_of_isPortable hp o o', h'] at h
    exact (Except.ok.inj h).symm

end Project

/-! ### An instance -/

/-- Options under which nothing is looked up anywhere. -/
def bareOptions : GenerationOptions where
  env := {}
  inspector := runtimeOptions.inspector
  language := some .fsharp30
  target := some .net20
  wrap := true

/-- A portable project with a resource and a source file. -/
def portableProject : Project :=
  { hostedProject [] with
    framework := { identifier := Moniker.portable, version := "4.5", profile := "Profile7" }
    files := [⟨"A.txt", "EmbeddedResource", "A.txt", false⟩, ⟨"B.fs", "Compile", "B.fs", false⟩] }

/-- Without an environment there are no core assemblies, which makes a difference to the references
of a project that is not portable and to nothing else. -/
theorem compilerOptions_agree_hosted :
    (∃ options options',
      ((hostedProject ["/lib/A.dll"]).compilerOptions coreLibraries { name := "Debug" } {}
          runtimeOptions).outcome = .ok options
        ∧ ((hostedProject ["/lib/A.dll"]).compilerOptions coreLibraries { name := "Debug" } {}
          bareOptions).outcome = .ok options'
        ∧ options.filterMap CompilerOption.reference?
          = ["/rt/FSharp.Core.dll", "/rt/mscorlib.dll", "/lib/A.dll"]
        ∧ options'.filterMap CompilerOption.reference? = ["/lib/A.dll"]
        ∧ options.filter (fun option ↦ !option.isReference)
          = options'.filter (fun option ↦ !option.isReference))
      ∧ portableProject.isPortable = true
      ∧ ∃ options options',
        (portableProject.compilerOptions coreLibraries { name := "Debug" } {}
            runtimeOptions).outcome = .ok options
          ∧ (portableProject.compilerOptions coreLibraries { name := "Debug" } {}
            bareOptions).outcome = .ok options'
          ∧ options = options' := by
  obtain ⟨options, h, hpaths⟩ : ∃ options, ((hostedProject ["/lib/A.dll"]).compilerOptions
        coreLibraries { name := "Debug" } {} runtimeOptions).outcome = .ok options
      ∧ options.filterMap CompilerOption.reference?
        = ["/rt/FSharp.Core.dll", "/rt/mscorlib.dll", "/lib/A.dll"] := ⟨_, rfl, by decide +kernel⟩
  obtain ⟨options', h', hpaths'⟩ : ∃ options, ((hostedProject ["/lib/A.dll"]).compilerOptions
        coreLibraries { name := "Debug" } {} bareOptions).outcome = .ok options
      ∧ options.filterMap CompilerOption.reference? = ["/lib/A.dll"] :=
    ⟨_, rfl, by decide +kernel⟩
  obtain ⟨portable, hp⟩ : ∃ options, (portableProject.compilerOptions coreLibraries
      { name := "Debug" } {} runtimeOptions).outcome = .ok options := ⟨_, rfl⟩
  obtain ⟨portable', hp'⟩ : ∃ options, (portableProject.compilerOptions coreLibraries
      { name := "Debug" } {} bareOptions).outcome = .ok options := ⟨_, rfl⟩
  have hportable : portableProject.isPortable = true := by decide +kernel
  exact ⟨⟨options, options', h, h', hpaths, hpaths', (Project.compilerOptions_agree h h').2.1⟩,
    hportable, portable, portable', hp, hp',
    (Project.compilerOptions_agree hp hp').2.2 hportable rfl⟩

end FSharpFlags
