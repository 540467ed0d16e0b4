import FSharpFlags.Proofs.PathText
import FSharpFlags.Proofs.ReferenceList

/-!
# Whether a hint is followed to its file

A hint is followed in two steps. It is put after the directory of the project file, which gives the
text of a path, and then every occurrence of the former Mono directory in that text is replaced by
the current one. The replacement is meant for what lies beneath the former directory, and it takes
the text alone: `ExternalTools` beside it is replaced just as well, and so is a copy of the former
directory further down in another tree.

A text without an occurrence stays as it is, and the file that it names is what the reference stands
for. A text with one becomes longer, because the current directory has the longer name. Whether the
longer text names a file or not, the file hinted at is not what the reference stands for then: the
other possible answer is a bare name, and a text with an occurrence is none.
-/

namespace FSharpFlags

/-! ## Replacing a text -/

section Replacement

variable {old new cs : List Char}

theorem replaceAll_of_absent (h : ¬old <:+: cs) : replaceAll old new cs = cs := by
  induction cs with
  | nil => rw [replaceAll]
  | cons c rest ih =>
    rw [List.infix_cons_iff, not_or] at h
    rw [replaceAll, if_neg (mt List.isPrefixOf_iff_prefix.mp h.1), ih h.2]

/-- What is replaced by a text that is not shorter does not get shorter. -/
theorem length_le_length_replaceAll (hold : old ≠ []) (hlength : old.length ≤ new.length)
    (cs : List Char) : cs.length ≤ (replaceAll old new cs).length := by
  have hempty : old.isEmpty = false := List.isEmpty_eq_false_iff.mpr hold
  have hpos : 0 < old.length := List.length_pos_iff.mpr hold
  induction cs using replaceAll.induct old with
  | case1 => exact Nat.zero_le _
  | case2 c rest hprefix habsurd =>
    rw [hempty] at habsurd
    cases habsurd
  | case3 c rest hprefix _ ih =>
    rw [replaceAll, if_pos hprefix, hempty, if_neg Bool.false_ne_true]
    rw [List.length_drop] at ih
    rw [List.length_append, List.length_cons]
    omega
  | case4 c rest hprefix ih =>
    rw [replaceAll, if_neg hprefix, List.length_cons, List.length_cons]
    omega

/-- Where there is something to replace, a longer text makes the whole longer. -/
theorem length_lt_length_replaceAll (hold : old ≠ []) (hlength : old.length < new.length)
    (h : old <:+: cs) : cs.length < (replaceAll old new cs).length := by
  have hempty : old.isEmpty = false := List.isEmpty_eq_false_iff.mpr hold
  have hpos : 0 < old.length := List.length_pos_iff.mpr hold
  induction cs with
  | nil => exact absurd (List.infix_nil.mp h) hold
  | cons c rest ih =>
    rw [replaceAll]
    split_ifs with hprefix hnil
    · rw [hempty] at hnil
      cases hnil
    · have hrest := length_le_length_replaceAll hold hlength.le (rest.drop (old.length - 1))
      rw [List.length_drop] at hrest
      rw [List.length_append, List.length_cons]
      omega
    · rw [List.isPrefixOf_iff_prefix] at hprefix
      have hlonger := ih ((List.infix_cons_iff.mp h).resolve_left hprefix)
      rw [List.length_cons, List.length_cons]
      omega

theorem relocated_eq_iff {path : String} :
    relocated path = path ↔ ¬formerMonoDirectory.toList <:+: path.toList := by
  rw [relocated, ← String.toList_inj, String.toList_ofList]
  refine ⟨fun heq hoccurs ↦ ?_, replaceAll_of_absent⟩
  have hlonger : path.toList.length < (replaceAll formerMonoDirectory.toList
      currentMonoDirectory.toList path.toList).length :=
    length_lt_length_replaceAll (by decide) (by decide) hoccurs
  rw [heq] at hlonger
  exact lt_irrefl _ hlonger

end Replacement

/-! ## Following a hint -/

/-- Whether a path leads on from a directory, by whole components. -/
def Path.LiesBeneath (p directory : Path) : Prop :=
  p.anchor = directory.anchor ∧ directory.parts <+: p.parts ∧ p.parts ≠ directory.parts

instance (p directory : Path) : Decidable (p.LiesBeneath directory) :=
  inferInstanceAs (Decidable (_ ∧ _))

/-- What lies beneath a directory has the text of the directory in its own. -/
theorem Path.LiesBeneath.text_occurs {p directory : Path} (h : p.LiesBeneath directory)
    (hparts : directory.parts ≠ []) : directory.text.toList <:+: p.text.toList := by
  obtain ⟨hanchor, ⟨rest, hrest⟩, hne⟩ := h
  have hmore : rest ≠ [] := by
    rintro rfl
    exact hne (by rw [← hrest, List.append_nil])
  have htext : p.text = directory.text ++ ("/" ++ "/".intercalate rest) := by
    rw [text_of_parts_ne_nil hparts, text_of_parts_ne_nil (by simp [← hrest, hmore]), hanchor,
      ← hrest, String.intercalate_append_of_ne_nil hparts hmore, String.append_assoc,
      ← String.append_assoc]
  rw [htext, String.toList_append]
  exact (List.prefix_append _ _).isInfix

namespace Project

variable {fs : FileSystem} {p : Project} {r : DeclaredReference} {hint : String}
  {selection : Selection}

/-- The file that a hint leads to from the directory of the project file. -/
def hintedFile (p : Project) (hint : String) : Path := (Path.parse p.fileName).parent.child hint

theorem isRead_hintedFile (p : Project) (hint : String) : (p.hintedFile hint).IsRead :=
  (Path.isRead_parse p.fileName).parent.child hint

theorem hintedPaths_of_isEmpty (hhint : r.hintPath = some hint) (h : hint.isEmpty = true) :
    p.hintedPaths fs r = .ok [] := by
  rw [hintedPaths, hhint]
  have hgiven : given (some hint) = none := by simp [given, Option.filter, h]
  rw [hgiven]

theorem hintedPaths_cases (hhint : r.hintPath = some hint) (h : hint.isEmpty = false)
    {paths : List String} (hpaths : p.hintedPaths fs r = .ok paths) :
    paths = [relocated (p.hintedFile hint).text] ∨ paths = [fileNameOf hint] := by
  rw [hintedPaths, hhint, given_some h] at hpaths
  obtain ⟨found, -, hpaths⟩ := bind_eq_ok_iff.mp hpaths
  cases found with
  | true => exact .inl (Except.ok.inj hpaths).symm
  | false => exact .inr (Except.ok.inj hpaths).symm

theorem pathsOf_eq_hintedPaths
    (hkind : r.kind = .assembly ∨ r.kind = .package ∧ r.package = none) :
    p.pathsOf fs selection r = p.hintedPaths fs r := by
  rw [pathsOf]
  rcases hkind with hkind | ⟨hkind, hpackage⟩
  · rw [hkind]
  · rw [hkind, hpackage]

/-- A file whose path text is changed by the replacement is not what its hint stands for. -/
theorem hintedPaths_ne_of_occurs (hhint : r.hintPath = some hint) (h : hint.isEmpty = false)
    (hoccurs : formerMonoDirectory.toList <:+: (p.hintedFile hint).text.toList) :
    p.hintedPaths fs r ≠ .ok [(p.hintedFile hint).text] := by
  intro hpaths
  rcases hintedPaths_cases hhint h hpaths with hmoved | hbare
  · exact relocated_eq_iff.mp (List.singleton_inj.mp hmoved).symm hoccurs
  · -- A bare name has no separator, and the former directory is written with some.
    have hslash : '/' ∈ (p.hintedFile hint).text.toList :=
      hoccurs.subset (by decide : '/' ∈ formerMonoDirectory.toList)
    rw [List.singleton_inj.mp hbare] at hslash
    exact not_mem_fileNameOf hint hslash

theorem hintedPaths_of_absent (hhint : r.hintPath = some hint) (h : hint.isEmpty = false)
    (habsent : ¬formerMonoDirectory.toList <:+: (p.hintedFile hint).text.toList)
    (hfile : fs.isFile (p.hintedFile hint).text = .ok true) :
    p.hintedPaths fs r = .ok [(p.hintedFile hint).text] := by
  have hpath : p.hintedPath hint = (p.hintedFile hint).text := relocated_eq_iff.mpr habsent
  rw [hintedPaths, hhint, given_some h]
  dsimp only
  rw [hpath, Path.parse_text (p.isRead_hintedFile hint), hfile]
  rfl

/-- What lies beneath the former directory is changed by the replacement. -/
theorem occurs_of_liesBeneath
    (h : (p.hintedFile hint).LiesBeneath (Path.parse formerMonoDirectory)) :
    formerMonoDirectory.toList <:+: (p.hintedFile hint).text.toList := by
  have hparts : (Path.parse formerMonoDirectory).parts ≠ [] := by decide
  have htext : (Path.parse formerMonoDirectory).text = formerMonoDirectory := by decide
  have hoccurs := h.text_occurs hparts
  rwa [htext] at hoccurs

/-- **An existing file is what its hint stands for**, when the hint is not empty and the text of the
path does not have the former Mono directory in it, and only then. All that lies beneath that
directory has it in its text. -/
theorem pathsOf_hinted_iff (hkind : r.kind = .assembly ∨ r.kind = .package ∧ r.package = none)
    (hhint : r.hintPath = some hint) (hfile : fs.isFile (p.hintedFile hint).text = .ok true) :
    (p.pathsOf fs selection r = .ok [(p.hintedFile hint).text]
        ↔ hint ≠ "" ∧ ¬formerMonoDirectory.toList <:+: (p.hintedFile hint).text.toList)
      ∧ ((p.hintedFile hint).LiesBeneath (Path.parse formerMonoDirectory) →
        formerMonoDirectory.toList <:+: (p.hintedFile hint).text.toList) := by
  refine ⟨?_, occurs_of_liesBeneath⟩
  rw [pathsOf_eq_hintedPaths hkind, Ne, ← String.isEmpty_iff, Bool.not_eq_true]
  by_cases hgiven : hint.isEmpty = false
  · rw [and_iff_right hgiven]
    constructor
    · intro hpaths hoccurs
      exact hintedPaths_ne_of_occurs hhint hgiven hoccurs hpaths
    · intro habsent
      exact hintedPaths_of_absent hhint hgiven habsent hfile
  · refine iff_of_false ?_ fun h ↦ hgiven h.1
    rw [hintedPaths_of_isEmpty hhint (Bool.eq_true_of_not_eq_false hgiven)]
    rintro ⟨⟩

/-! ### Instances -/

/-- A reference to an assembly with a hint. -/
def hintedAssembly (hint : String) : DeclaredReference where
  kind := .assembly
  identity := "A"
  hintPath := some hint

/-- A file beside the directory that assemblies of the Mono framework were kept in. -/
def externalTool : String := "/Library/Frameworks/Mono.framework/ExternalTools/A.dll"

/-- A file system with that file and one in the directory of the project. -/
def hintedFiles : FileSystem where
  root := .directory [
    ("work", .directory [("App", .directory [
      ("lib", .directory [("A.dll", .file .empty false)] false)] false)] false),
    ("Library", .directory [("Frameworks", .directory [("Mono.framework", .directory [
      ("ExternalTools", .directory [("A.dll", .file .empty false)] false)] false)] false)] false)]
    false
  currentDirectory := "/"

/-- A hint from the directory of the project is followed. -/
theorem pathsOf_hinted_beside :
    hintedFiles.isFile ((hostedProject []).hintedFile "lib/A.dll").text = .ok true
      ∧ (hostedProject []).pathsOf hintedFiles {} (hintedAssembly "lib/A.dll")
        = .ok ["/work/App/lib/A.dll"] := by
  have htext : ((hostedProject []).hintedFile "lib/A.dll").text = "/work/App/lib/A.dll" := by
    decide +kernel
  have hfile : hintedFiles.isFile ((hostedProject []).hintedFile "lib/A.dll").text = .ok true := by
    rw [htext]
    decide +kernel
  -- The text is shorter than the one that would be replaced.
  have hplain : ¬formerMonoDirectory.toList <:+: "/work/App/lib/A.dll".toList :=
    fun hoccurs ↦ absurd hoccurs.length_le (by decide)
  have hpaths : (hostedProject []).pathsOf hintedFiles {} (hintedAssembly "lib/A.dll")
      = .ok [((hostedProject []).hintedFile "lib/A.dll").text] :=
    (pathsOf_hinted_iff (.inl rfl) rfl hfile).1.mpr ⟨by decide, by rwa [htext]⟩
  rw [htext] at hpaths
  exact ⟨hfile, hpaths⟩

/-- A hint to a file beside the former directory is not followed to it. -/
theorem pathsOf_hinted_externalTool :
    hintedFiles.isFile ((hostedProject []).hintedFile externalTool).text = .ok true
      ∧ ¬((hostedProject []).hintedFile externalTool).LiesBeneath (Path.parse formerMonoDirectory)
      ∧ (hostedProject []).pathsOf hintedFiles {} (hintedAssembly externalTool)
        ≠ .ok [((hostedProject []).hintedFile externalTool).text] := by
  have htext : ((hostedProject []).hintedFile externalTool).text = externalTool := by
    decide +kernel
  have hoccurs : formerMonoDirectory.toList <:+: externalTool.toList :=
    ⟨[], "Tools/A.dll".toList, by decide⟩
  refine ⟨?_, by decide +kernel, ?_⟩
  · rw [htext]
    decide +kernel
  · rw [pathsOf_eq_hintedPaths (.inl rfl)]
    exact hintedPaths_ne_of_occurs rfl (by decide) (by rwa [htext])

end Project

end FSharpFlags
