import FSharpFlags.Metadata.Inspection
import FSharpFlags.Project.Facades
import FSharpFlags.Proofs.ListingOrder
import FSharpFlags.Proofs.Pieces
import FSharpFlags.Proofs.RootedPath
import FSharpFlags.Runtime.MonoInstall

/-!
# What the current directory decides

The current directory decides where a relative path begins, and nothing else. So whatever looks at
rooted paths only is the same wherever it is asked: the files and directories that are seen, the
libraries of a directory, what an assembly file says, the facades of an installation.

The one source of relative paths among the references of a project are hints that lead nowhere.
Such a hint is replaced by the bare name of the file, which is meant to be looked up elsewhere. A
bare name has no separator, so that read as a path it lies in the current directory itself.
-/

namespace FSharpFlags

/-! ## Looks at rooted paths -/

namespace FileSystem

variable {fs : FileSystem} {path : String}

/-- The file system as it is seen from a directory. -/
def seenFrom (fs : FileSystem) (directory : String) : FileSystem :=
  { fs with currentDirectory := directory }

/-- **A rooted path leads to the same node** wherever it is followed. -/
theorem resolve_seenFrom (h : isRooted path = true) (d : String) :
    (fs.seenFrom d).resolve path = fs.resolve path := by
  have hstart : (fs.seenFrom d).start path = fs.start path := by
    rw [start, start, if_pos (isRooted_iff.mp h), if_pos (isRooted_iff.mp h)]
    rfl
  rw [resolve, resolve, hstart]

theorem examine_seenFrom (h : isRooted path = true) (d : String) (sort : Node → Bool) :
    (fs.seenFrom d).examine sort path = fs.examine sort path := by
  rw [examine, examine, resolve_seenFrom h]

theorem reaches_seenFrom (h : isRooted path = true) (d : String) :
    (fs.seenFrom d).reaches path = fs.reaches path := by
  rw [reaches, reaches, resolve_seenFrom h]

theorem read_seenFrom (h : isRooted path = true) (d : String) :
    (fs.seenFrom d).read path = fs.read path := by
  rw [read, read, resolve_seenFrom h]

theorem namesIn_seenFrom (h : isRooted path = true) (d : String) (keep : String → Bool) :
    (fs.seenFrom d).namesIn path keep = fs.namesIn path keep := by
  have hlist : (fs.seenFrom d).list path = fs.list path := by
    rw [list, list, resolve_seenFrom h]
  rw [namesIn, namesIn, isDirectory, isDirectory, examine_seenFrom h, hlist]

theorem filterM_isFile_seenFrom {paths : List String} (h : ∀ path ∈ paths, isRooted path = true)
    (d : String) : paths.filterM (fs.seenFrom d).isFile = paths.filterM fs.isFile := by
  have haux : ∀ acc, paths.filterAuxM (fs.seenFrom d).isFile acc
      = paths.filterAuxM fs.isFile acc := by
    induction paths with
    | nil => exact fun acc ↦ rfl
    | cons path rest ih =>
      rw [List.forall_mem_cons] at h
      intro acc
      rw [List.filterAuxM, List.filterAuxM, isFile, isFile, examine_seenFrom h.1]
      exact congrArg _ (funext fun found ↦ ih h.2 _)
  rw [List.filterM, List.filterM, haux]

theorem libraries_seenFrom {directory : Path} (h : directory.isAbsolute = true) (d : String) :
    (fs.seenFrom d).libraries directory = fs.libraries directory := by
  rw [libraries, libraries, namesIn_seenFrom (Path.isRooted_text h)]
  refine congrArg _ (funext fun names ↦ filterM_isFile_seenFrom ?_ d)
  intro path hpath
  obtain ⟨name, -, rfl⟩ := List.mem_map.mp hpath
  exact Path.isRooted_text h

theorem isRooted_of_mem_libraries {directory : Path} (h : directory.isAbsolute = true)
    {libraries : List String} (hlibraries : fs.libraries directory = .ok libraries)
    (hpath : path ∈ libraries) : isRooted path = true := by
  obtain ⟨names, -, hfilter⟩ := bind_eq_ok_iff.mp hlibraries
  obtain ⟨name, -, rfl⟩ := List.mem_map.mp ((sublist_of_filterM hfilter).subset hpath)
  exact Path.isRooted_text h

end FileSystem

open FileSystem

variable {fs : FileSystem}

/-! ## Assembly files -/

namespace Inspector

/-- The row for an assembly of the given name in the reference table of a file. -/
def dependency? (i : Inspector) (path name : String) : Option AssemblyReference :=
  (i.references path).value?.bind fun rows ↦ rows.find? (·.name = name)

theorem name_of_dependency? {i : Inspector} {path name : String} {row : AssemblyReference}
    (h : i.dependency? path name = some row) : row.name = name := by
  obtain ⟨rows, -, hrow⟩ := Option.bind_eq_some_iff.mp h
  simpa using List.find?_some hrow

/-- Whether two inspectors answer alike all that is asked about a file. -/
structure AgreesAt (i i' : Inspector) (path : String) : Prop where
  /-- Whether it is portable. -/
  isPortable : (i.isPortable path).outcome = (i'.isPortable path).outcome
  /-- Which assembly of a name it refers to. -/
  dependency : ∀ name, i.dependency? path name = i'.dependency? path name

theorem agreesAt_of_eq {i i' : Inspector} {path : String}
    (hreferences : i.references path = i'.references path)
    (hframework : i.framework path = i'.framework path) : i.AgreesAt i' path where
  isPortable := by
    simp only [Inspector.isPortable, askReferences, frameworkIsPortable, askFramework,
      hreferences, hframework]
  dependency name := by rw [dependency?, dependency?, hreferences]

section Parser

variable {parser : ImageParser}

/-- What a file says depends on its bytes alone. -/
theorem agreesAt_ofParser_of_read_eq {fs fs' : FileSystem} {path : String}
    (h : fs.read (Path.parse path).text = fs'.read (Path.parse path).text) :
    (ofParser parser fs).AgreesAt (ofParser parser fs') path := by
  have hfile : ∀ {α : Type} (reader : MetadataTables → Reading α),
      ofFile parser fs reader path = ofFile parser fs' reader path := by
    intro α reader
    unfold ofFile
    rw [h]
  apply agreesAt_of_eq
  · simp only [ofParser]
    exact hfile _
  · simp only [ofParser]
    exact hfile _

/-- What a file with a rooted path says does not depend on the current directory. -/
theorem agreesAt_ofParser {path : String} (h : isRooted path = true) (d d' : String) :
    (ofParser parser (fs.seenFrom d)).AgreesAt (ofParser parser (fs.seenFrom d')) path := by
  have htext := Path.isRooted_text_parse h
  exact agreesAt_ofParser_of_read_eq (by rw [read_seenFrom htext, read_seenFrom htext])

end Parser

/-- Of two inspectors that agree at all of the paths, either both find a portable one or neither. -/
theorem outcome_anyPortable_congr {i i' : Inspector} {paths : List String}
    (h : ∀ path ∈ paths, i.AgreesAt i' path) :
    (i.anyPortable paths).outcome = (i'.anyPortable paths).outcome := by
  induction paths with
  | nil => rfl
  | cons path rest ih =>
    rw [List.forall_mem_cons] at h
    rw [anyPortable, anyPortable, Attempt.outcome_bind, Attempt.outcome_bind, h.1.isPortable]
    refine congrArg _ (funext fun found ↦ ?_)
    cases found with
    | true => rfl
    | false => exact ih h.2

end Inspector

/-! ## Facades of an installation -/

namespace MonoInstall

variable {root : Path} {m : Moniker}

theorem isAbsolute_of_mem_desktopDirectories (h : root.isAbsolute = true) {version : String}
    {p : Path} (hp : p ∈ desktopDirectories root version) : p.isAbsolute = true := by
  rw [desktopDirectories, List.mem_pair] at hp
  rcases hp with rfl | rfl <;> exact Path.isAbsolute_child h _

theorem firstFacades_seenFrom {directories : List Path}
    (h : ∀ p ∈ directories, p.isAbsolute = true) (d : String) :
    firstFacades (fs.seenFrom d) directories = firstFacades fs directories := by
  induction directories with
  | nil => rfl
  | cons p rest ih =>
    rw [List.forall_mem_cons] at h
    rw [firstFacades, firstFacades, isDirectory, isDirectory,
      examine_seenFrom (Path.isRooted_text h.1), libraries_seenFrom h.1, ih h.2]

theorem isRooted_of_mem_firstFacades {directories : List Path}
    (h : ∀ p ∈ directories, p.isAbsolute = true) {facades : List String}
    (hfacades : firstFacades fs directories = .ok facades) :
    ∀ path ∈ facades, isRooted path = true := by
  induction directories with
  | nil =>
    obtain rfl := Except.ok.inj hfacades
    exact fun path hpath ↦ absurd hpath List.not_mem_nil
  | cons p rest ih =>
    rw [List.forall_mem_cons] at h
    obtain ⟨found, -, hfacades⟩ := bind_eq_ok_iff.mp hfacades
    cases found with
    | true => exact fun path hpath ↦ isRooted_of_mem_libraries h.1 hfacades hpath
    | false => exact ih h.2 hfacades

theorem isAbsolute_of_mem_facadeDirectories (h : root.isAbsolute = true) (m : Moniker) :
    ∀ p ∈ (desktopDirectories root m.version ++ desktopDirectories root fallbackVersion).map
      (·.child "Facades"), p.isAbsolute = true := by
  intro p hp
  obtain ⟨directory, hdirectory, rfl⟩ := List.mem_map.mp hp
  refine Path.isAbsolute_child ?_ _
  rcases List.mem_append.mp hdirectory with hdirectory | hdirectory
  · exact isAbsolute_of_mem_desktopDirectories h hdirectory
  · exact isAbsolute_of_mem_desktopDirectories h hdirectory

/-- The facades of an installation with an absolute root do not depend on the current directory. -/
theorem facades_seenFrom (h : root.isAbsolute = true) (d : String) (m : Moniker) :
    facades (fs.seenFrom d) root m = facades fs root m :=
  firstFacades_seenFrom (isAbsolute_of_mem_facadeDirectories h m) d

theorem isRooted_of_mem_facades (h : root.isAbsolute = true) {paths : List String}
    (hpaths : facades fs root m = .ok paths) : ∀ path ∈ paths, isRooted path = true :=
  isRooted_of_mem_firstFacades (isAbsolute_of_mem_facadeDirectories h m) hpaths

end MonoInstall

/-! ## Hints -/

/-- What is put in the place of a rooted text leaves a rooted path rooted. -/
theorem head?_replaceAll {old new cs : List Char} (hnew : new.head? = some '/')
    (h : cs.head? = some '/') : (replaceAll old new cs).head? = some '/' := by
  cases cs with
  | nil => cases h
  | cons c rest =>
    unfold replaceAll
    split_ifs
    · exact h
    · rw [List.head?_append, hnew]
      rfl
    · exact h

theorem isRooted_relocated {path : String} (h : isRooted path = true) :
    isRooted (relocated path) = true := by
  rw [isRooted_iff] at h ⊢
  rw [relocated, String.toList_ofList]
  exact head?_replaceAll rfl h

namespace FileName

variable {cs : List Char}

theorem not_mem_backslashed (cs : List Char) : '/' ∉ backslashed cs := by
  rw [backslashed, List.mem_map]
  rintro ⟨c, -, hc⟩
  split_ifs at hc with heq
  · exact absurd hc (by decide)
  · exact heq hc

theorem not_mem_withoutMarker (h : '/' ∉ cs) : '/' ∉ withoutMarker cs := by
  unfold withoutMarker
  split
  · next rest =>
    intro hmem
    rcases List.mem_append.mp (show '/' ∈ ['\\', '\\'] ++ rest from hmem) with hmem | hmem
    · exact absurd hmem (by decide)
    · exact h (List.mem_append_right ['\\', '\\', '?', '\\', 'U', 'N', 'C', '\\'] hmem)
  · exact fun hmem ↦ h (List.mem_append_right ['\\', '\\', '?', '\\'] hmem)
  · exact h

theorem not_mem_of_afterShare? (h : '/' ∉ cs) {below : List Char}
    (hbelow : afterShare? cs = some below) : '/' ∉ below := by
  unfold afterShare? at hbelow
  split at hbelow
  · next rest =>
    split at hbelow
    · next mount hmount =>
      split_ifs at hbelow
      obtain rfl := Option.some.inj hbelow
      intro hmem
      have hrest : '/' ∈ rest.dropWhile (· ≠ '\\') := by
        rw [hmount]
        exact List.mem_cons_of_mem _ ((List.dropWhile_suffix _).subset hmem)
      exact h (List.mem_cons_of_mem _ (List.mem_cons_of_mem _
        ((List.dropWhile_suffix _).subset hrest)))
    · cases hbelow
  · cases hbelow

theorem not_mem_afterDrive (h : '/' ∉ cs) : '/' ∉ afterDrive cs := by
  unfold afterDrive
  split
  · split_ifs <;> simp_all
  · exact h

theorem not_mem_beneath (cs : List Char) : '/' ∉ beneath cs := by
  have hplain : '/' ∉ withoutMarker (backslashed cs) :=
    not_mem_withoutMarker (not_mem_backslashed cs)
  unfold beneath
  dsimp only
  cases hshare : afterShare? (withoutMarker (backslashed cs)) with
  | none => exact not_mem_afterDrive hplain
  | some rest => exact not_mem_of_afterShare? hplain hshare

theorem not_mem_lastPart (h : '/' ∉ cs) : '/' ∉ lastPart cs := by
  unfold lastPart
  cases hlast : ((cs.splitOn '\\').filter fun piece ↦ piece ≠ [] && piece ≠ ['.']).getLast? with
  | none => exact List.not_mem_nil
  | some piece =>
    intro hmem
    exact h (mem_of_mem_splitOn (List.mem_of_mem_filter (List.mem_of_getLast? hlast)) hmem).1

end FileName

/-- The bare name of a file has no separator. -/
theorem not_mem_fileNameOf (path : String) : '/' ∉ (fileNameOf path).toList := by
  rw [fileNameOf, String.toList_ofList]
  exact FileName.not_mem_lastPart (FileName.not_mem_beneath _)

/-! ## Collected references -/

namespace Project

variable {p : Project} {selection : Selection}

theorem isRooted_hintedPath (h : isRooted p.fileName = true) (hint : String) :
    isRooted (p.hintedPath hint) = true := by
  refine isRooted_relocated (Path.isRooted_text_child ?_ hint)
  rw [Path.isAbsolute_parent, Path.isAbsolute_parse, h]

/-- **What is collected does not depend on the current directory**, when the project file has a
rooted path: hints are looked for in rooted places, and what takes the place of one that leads
nowhere is not looked for. -/
theorem collect_seenFrom (h : isRooted p.fileName = true) (d : String)
    (wanted : ReferenceKind → Bool) :
    p.collect (fs.seenFrom d) selection wanted = p.collect fs selection wanted := by
  have hhinted : ∀ r, p.hintedPaths (fs.seenFrom d) r = p.hintedPaths fs r := by
    intro r
    unfold hintedPaths
    cases given r.hintPath with
    | none => rfl
    | some hint =>
      simp only [isFile,
        examine_seenFrom (Path.isRooted_text_parse (isRooted_hintedPath h hint))]
  have hpaths : p.pathsOf (fs.seenFrom d) selection = p.pathsOf fs selection := by
    funext r
    simp only [pathsOf, hhinted]
  rw [collect, collect, hpaths]

end Project

end FSharpFlags
