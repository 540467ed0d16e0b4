import FSharpFlags.Proofs.PlainLetters
import FSharpFlags.Proofs.ReferenceList
import Mathlib.Data.List.Perm.Basic
import Mathlib.Data.List.Sort

/-!
# The compile order

What is compiled is what is declared: the items with the right build action and suffix, as often as
they are declared. In what order is decided by one question, whether a file is also one of a project
that is referred to for the sake of its files. A stable sort by a question splits the list in two
halves, each in the order of declaration. The answer depends on the other projects through the keys
of their files alone.
-/

namespace FSharpFlags

/-! ## Sorting by a question -/

section BooleanKey

variable {α : Type} (key : α → Bool)

/-- What is sorted by a question are the elements that answer no, and then those that answer yes. -/
theorem eq_filter_append_filter_of_pairwise {l : List α}
    (h : l.Pairwise fun a b ↦ (!key a || key b) = true) :
    l = l.filter (fun a ↦ !key a) ++ l.filter key := by
  induction l with
  | nil => rfl
  | cons a rest ih =>
    obtain ⟨ha, hrest⟩ := List.pairwise_cons.mp h
    cases hkey : key a with
    | false =>
      rw [List.filter_cons_of_pos (by simp [hkey]), List.filter_cons_of_neg (by simp [hkey]),
        List.cons_append, ← ih hrest]
    | true =>
      have hall : ∀ b ∈ rest, key b = true := fun b hb ↦ by simpa [hkey] using ha b hb
      have hnone : rest.filter (fun b ↦ !key b) = [] :=
        List.filter_eq_nil_iff.mpr fun b hb ↦ by simp [hall b hb]
      rw [List.filter_cons_of_neg (by simp [hkey]), List.filter_cons_of_pos hkey, hnone,
        List.nil_append, List.filter_eq_self.mpr hall]

/-- **A stable sort by a question is a partition** that leaves the order within its halves. -/
theorem mergeSort_eq_filter_append_filter (l : List α) :
    (l.mergeSort fun a b ↦ !key a || key b) = l.filter (fun a ↦ !key a) ++ l.filter key := by
  have htrans : ∀ a b c : α, (!key a || key b) = true → (!key b || key c) = true →
      (!key a || key c) = true := by
    intro a b c hab hbc
    cases ha : key a <;> cases hb : key b <;> simp_all
  have htotal : ∀ a b : α, ((!key a || key b) || (!key b || key a)) = true := by
    intro a b
    cases key a <;> simp
  -- Elements that answer alike are in order among each other, so the sort keeps their sequence.
  have hhalf : ∀ p : α → Bool, (∀ a b : α, p a = true → p b = true → (!key a || key b) = true) →
      (l.mergeSort fun a b ↦ !key a || key b).filter p = l.filter p := by
    intro p hp
    have hordered : (l.filter p).Pairwise fun a b ↦ (!key a || key b) = true :=
      List.pairwise_of_forall_mem_list fun a ha b hb ↦
        hp a b (List.mem_filter.mp ha).2 (List.mem_filter.mp hb).2
    have hsub := (List.sublist_mergeSort htrans htotal hordered List.filter_sublist).filter p
    simp only [List.filter_filter, Bool.and_self] at hsub
    exact (hsub.eq_of_length ((List.mergeSort_perm l _).filter p).length_eq.symm).symm
  rw [eq_filter_append_filter_of_pairwise key (List.pairwise_mergeSort htrans htotal l),
    hhalf (fun a ↦ !key a) fun a b ha _ ↦ by simp_all, hhalf key fun a b _ hb ↦ by simp_all]

end BooleanKey

/-! ## What is compiled -/

/-- Whether an item is a source or signature file for the compiler, in whatever case its suffix is
written. -/
def ProjectFile.IsCompiled (f : ProjectFile) : Prop :=
  f.buildAction = "Compile" ∧ f.isDirectory = false
    ∧ ((Path.parse f.path).suffix.toLower = ".fs" ∨ (Path.parse f.path).suffix.toLower = ".fsi")

instance (f : ProjectFile) : Decidable f.IsCompiled := inferInstanceAs (Decidable (_ ∧ _ ∧ _))

theorem isSource_iff (path : String) :
    isSource path = true ↔ (Path.parse path).suffix.toLower = ".fs"
      ∨ (Path.parse path).suffix.toLower = ".fsi" := by
  have hplain : ∀ suffix ∈ [".fs", ".fsi"], ∀ c ∈ suffix.toList, IsPlainChar c := by
    simp [IsPlainChar]
  rw [isSource, List.contains_iff_mem, List.mem_pair, lowerSuffix,
    toLowerCase_eq_iff (hplain ".fs" (by simp)), toLowerCase_eq_iff (hplain ".fsi" (by simp))]

theorem ProjectFile.isCompiled_iff (f : ProjectFile) :
    f.IsCompiled ↔ (f.isCompileItem && isSource f.path) = true := by
  rw [Bool.and_eq_true, isSource_iff, isCompileItem, Bool.and_eq_true, decide_eq_true_eq,
    Bool.not_eq_true', and_assoc, IsCompiled]

/-- The keys of the files of a project, in order. -/
def ProjectOutside.fileKeys (s : ProjectOutside) : List String :=
  s.files.map fun f ↦ referenceKey f.path

namespace Project

variable {p p' : Project}

/-- The paths of the items that are compiled, in the order of declaration. -/
def declaredSources (p : Project) : List String :=
  (p.files.filter fun f ↦ f.IsCompiled).map (·.path)

theorem map_path_sourceItems (p : Project) : p.sourceItems.map (·.path) = p.declaredSources := by
  rw [sourceItems, declaredSources]
  congr 1
  refine List.filter_congr fun f _ ↦ ?_
  rw [Bool.eq_iff_iff, decide_eq_true_eq, f.isCompiled_iff]

/-! ## Files of shared projects -/

/-- Whether a path has the key of a file of a project that is referred to for its files. -/
def IsShared (p : Project) (path : String) : Prop :=
  ∃ r ∈ p.references, r.sharedAssets = true ∧ ∃ shared, p.resolveProject r = some shared
    ∧ ∃ f ∈ shared.files, referenceKey f.path = referenceKey path

theorem contains_sharedKeys_iff (p : Project) (path : String) :
    p.sharedKeys.contains (referenceKey path) = true ↔ p.IsShared path := by
  simp only [sharedKeys, List.contains_iff_mem, List.mem_flatMap, List.mem_filterMap,
    List.mem_filter, List.mem_map, IsShared]
  constructor
  · rintro ⟨shared, ⟨r, ⟨hr, hshared⟩, hresolve⟩, f, hf, hkey⟩
    exact ⟨r, hr, hshared, shared, hresolve, f, hf, hkey⟩
  · rintro ⟨r, hr, hshared, shared, hresolve, f, hf, hkey⟩
    exact ⟨shared, ⟨r, ⟨hr, hshared⟩, hresolve⟩, f, hf, hkey⟩

instance (p : Project) (path : String) : Decidable (p.IsShared path) :=
  decidable_of_iff _ (p.contains_sharedKeys_iff path)

theorem isUnshared_eq (p : Project) (f : ProjectFile) :
    p.isUnshared f = decide ¬p.IsShared f.path := by
  rw [Bool.eq_iff_iff, decide_eq_true_eq, isUnshared, Bool.not_eq_true', ← Bool.not_eq_true,
    contains_sharedKeys_iff]

/-- The compile order is the declared order, split in two halves. -/
theorem compiledFiles_eq (p : Project) :
    p.compiledFiles = p.declaredSources.filter (fun path ↦ p.IsShared path)
      ++ p.declaredSources.filter fun path ↦ ¬p.IsShared path := by
  have hunshared : p.isUnshared = fun f ↦ decide ¬p.IsShared f.path := funext p.isUnshared_eq
  rw [compiledFiles, mergeSort_eq_filter_append_filter, List.map_append, ← map_path_sourceItems,
    List.filter_map, List.filter_map, hunshared]
  simp only [decide_not, Bool.not_not]
  rfl

/-- A shared file has only shared files before it. -/
theorem pairwise_compiledFiles (p : Project) :
    p.compiledFiles.Pairwise fun before after ↦ p.IsShared after → p.IsShared before := by
  have hshared : ∀ path ∈ p.declaredSources.filter (fun path ↦ p.IsShared path),
      p.IsShared path :=
    fun path hpath ↦ of_decide_eq_true (List.mem_filter.mp hpath).2
  have hother : ∀ path ∈ p.declaredSources.filter (fun path ↦ ¬p.IsShared path),
      ¬p.IsShared path :=
    fun path hpath ↦ of_decide_eq_true (List.mem_filter.mp hpath).2
  rw [compiledFiles_eq, List.pairwise_append]
  refine ⟨?_, ?_, ?_⟩
  · exact List.pairwise_of_forall_mem_list fun before hbefore _ _ _ ↦ hshared before hbefore
  · exact List.pairwise_of_forall_mem_list fun _ _ after hafter h ↦ absurd h (hother after hafter)
  · intro before hbefore _ _ _
    exact hshared before hbefore

/-! ## Other spellings -/

/-- The shared keys are gathered from the keys of each project that is referred to for its files. -/
theorem sharedKeys_eq (p : Project) :
    p.sharedKeys = (p.references.filter (·.sharedAssets)).flatMap fun r ↦
      ((p.resolveProject r).map ProjectOutside.fileKeys).getD [] := by
  rw [sharedKeys]
  induction p.references.filter (·.sharedAssets) with
  | nil => rfl
  | cons r rest ih =>
    rw [List.flatMap_cons, ← ih]
    cases hresolve : p.resolveProject r with
    | none => simp [hresolve]
    | some shared => simp [hresolve, ProjectOutside.fileKeys]

theorem sharedKeys_congr (hreferences : p'.references = p.references)
    (hkeys : ∀ r ∈ p.references, r.sharedAssets = true →
      (p'.resolveProject r).map ProjectOutside.fileKeys
        = (p.resolveProject r).map ProjectOutside.fileKeys) :
    p'.sharedKeys = p.sharedKeys := by
  rw [sharedKeys_eq, sharedKeys_eq, hreferences]
  refine List.flatMap_congr fun r hr ↦ ?_
  rw [List.mem_filter] at hr
  rw [hkeys r hr.1 hr.2]

/-- **The compile order is a stable partition.** What is compiled are the declared sources, as often
as they are declared. Those that are shared come first, and neither they nor the others change
places among each other. The files of the projects that are referred to for their files count by
their keys: with other spellings of their paths the compile order is the same. -/
theorem compiledFiles_stable (p : Project) :
    p.compiledFiles.Perm p.declaredSources
      ∧ p.compiledFiles.Pairwise (fun before after ↦ p.IsShared after → p.IsShared before)
      ∧ p.compiledFiles.filter (fun path ↦ p.IsShared path)
        = p.declaredSources.filter (fun path ↦ p.IsShared path)
      ∧ p.compiledFiles.filter (fun path ↦ ¬p.IsShared path)
        = p.declaredSources.filter (fun path ↦ ¬p.IsShared path)
      ∧ ∀ p' : Project, p'.files = p.files → p'.references = p.references →
        (∀ r ∈ p.references, r.sharedAssets = true →
          (p'.resolveProject r).map ProjectOutside.fileKeys
            = (p.resolveProject r).map ProjectOutside.fileKeys) →
        p'.compiledFiles = p.compiledFiles := by
  refine ⟨?_, p.pairwise_compiledFiles, ?_, ?_, fun p' hfiles hreferences hkeys ↦ ?_⟩
  · rw [compiledFiles_eq]
    simpa using List.filter_append_perm (fun path ↦ decide (p.IsShared path)) p.declaredSources
  · simp [compiledFiles_eq, List.filter_append, List.filter_filter]
  · simp [compiledFiles_eq, List.filter_append, List.filter_filter]
  · have hunshared : p'.isUnshared = p.isUnshared := by
      funext f
      rw [isUnshared, isUnshared, sharedKeys_congr hreferences hkeys]
    rw [compiledFiles, compiledFiles, sourceItems, sourceItems, hfiles, hunshared]

/-- A project that shares one file with another project, which spells its path in the given way. -/
def sharingProject (spelling : String) : Project :=
  { hostedProject [] with
    files := ["/work/App/Program.fs", "/work/App/A.FSI", "/work/App/../shared/UTIL.fs",
      "/work/App/Notes.txt"].map fun path ↦ ⟨path, "Compile", path, false⟩
    references := [{ kind := .project, identity := "Shared", sharedAssets := true }]
    resolveProject := fun _ ↦ some { (hostedProject []).toProjectOutside with
      files := [⟨spelling, "Compile", "Util.fs", false⟩] } }

/-- Another spelling of the shared file leaves it in front. -/
theorem compiledFiles_stable_spelling :
    (sharingProject "/work/App\\..\\SHARED/./Util.fs").compiledFiles
      = ["/work/App/../shared/UTIL.fs", "/work/App/Program.fs", "/work/App/A.FSI"] := by
  obtain ⟨-, -, -, -, hspelling⟩ := compiledFiles_stable (sharingProject "/work/Shared/Util.fs")
  rw [hspelling (sharingProject "/work/App\\..\\SHARED/./Util.fs") rfl rfl]
  · rw [compiledFiles_eq]
    decide +kernel
  · intro r _ _
    have hkey : referenceKey "/work/App\\..\\SHARED/./Util.fs"
        = referenceKey "/work/Shared/Util.fs" := by decide +kernel
    exact congrArg (fun key ↦ some [key]) hkey

end Project

end FSharpFlags
