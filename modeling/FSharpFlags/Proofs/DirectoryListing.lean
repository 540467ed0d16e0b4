import FSharpFlags.Proofs.ListingOrder
import FSharpFlags.Proofs.ToolFile

/-!
# Listing what lies beneath a directory

A directory can be asked about an entry in two ways: it is listed, or the path of the entry is
resolved. In a tree both ways agree, as far as they lead to anything. The path of an entry resolves
only if its directory can be listed, and then to the node that is listed under its name. The listing
may tell more, since the path of a listed entry can be too long to be resolved; a directory is
called legible here if that does not happen.

What lies beneath a directory is found by listing again and again. It is *readable* if every
directory found that way can be listed and every entry resolved.
-/

namespace FSharpFlags

/-! ## Filters whose test may fail -/

theorem filterAuxM_eq_ok {α ε : Type} {test : α → Except ε Bool} {keep : α → Bool} {as : List α}
    (h : ∀ a ∈ as, test a = .ok (keep a)) (acc : List α) :
    as.filterAuxM test acc = .ok ((as.filter keep).reverse ++ acc) := by
  induction as generalizing acc with
  | nil => rfl
  | cons a rest ih =>
    rw [List.forall_mem_cons] at h
    rw [List.filterAuxM, h.1]
    -- The accumulator is in reverse, so what is kept goes in front of it.
    show rest.filterAuxM test (cond (keep a) (a :: acc) acc) = _
    rw [ih h.2, List.filter_cons]
    cases keep a <;> simp

/-- A filter whose test returns for every element is the plain filter. -/
theorem filterM_eq_ok {α ε : Type} {test : α → Except ε Bool} {keep : α → Bool} {as : List α}
    (h : ∀ a ∈ as, test a = .ok (keep a)) : as.filterM test = .ok (as.filter keep) := by
  rw [List.filterM, filterAuxM_eq_ok h]
  show Except.ok ((as.filter keep).reverse ++ []).reverse = _
  rw [List.append_nil, List.reverse_reverse]

namespace Place

variable {p q : Place} {entries : List (String × Node)} {names : List String}

theorem exists_directory_of_walk (h : p.walk names = .ok q)
    (hq : q.node = .directory entries false) :
    ∃ entries', p.node = .directory entries' false := by
  cases names with
  | nil =>
    obtain rfl := Except.ok.inj h
    exact ⟨entries, hq⟩
  | cons name rest =>
    obtain ⟨next, hstep, -⟩ := exists_step_of_walk h
    obtain ⟨entries', hnode, -⟩ := step_cases hstep
    exact ⟨entries', hnode⟩

/-- A walk that ends in an open directory takes any steps that stay where they are as well. -/
theorem walk_of_walk_filter (h : p.walk (names.filter (· ≠ ".")) = .ok q)
    (hq : q.node = .directory entries false) : p.walk names = .ok q := by
  induction names generalizing p with
  | nil => exact h
  | cons name rest ih =>
    by_cases hdot : name = "."
    · rw [List.filter_cons_of_neg (by simpa using hdot)] at h
      obtain ⟨entries', hp⟩ := exists_directory_of_walk h hq
      have hstay : p.step name = .ok p := by simp [step, hp, hdot]
      rw [walk_cons, hstay]
      exact ih h
    · rw [List.filter_cons_of_pos (by simpa using hdot)] at h
      obtain ⟨next, hstep, hrest⟩ := exists_step_of_walk h
      rw [walk_cons, hstep]
      exact ih hrest

end Place

namespace Path

variable {p : Path} {name : String}

theorem text_entry (h : p.parts ≠ []) (name : String) :
    (p.entry name).text = p.text ++ "/" ++ name := by
  rw [text_of_parts_ne_nil (p := p.entry name) (by simp [entry]), text_of_parts_ne_nil h, entry,
    String.intercalate_append_of_ne_nil h (by simp), String.intercalate_singleton,
    ← String.append_assoc, ← String.append_assoc]

theorem IsRead.entry (hp : p.IsRead) (hname : IsEntryName name) : (p.entry name).IsRead :=
  hname.child_eq_entry p ▸ hp.child name

theorem text_ne_empty (h : p.IsRead) (hparts : p.parts ≠ []) : p.text ≠ "" := by
  intro hempty
  have hread := parse_text h
  rw [hempty] at hread
  exact hparts (hread ▸ rfl)

end Path

namespace FileSystem

variable {fs : FileSystem} {p top : Path} {path name : String} {node : Node}
  {entries : List (String × Node)}

/-! ## Listing and resolving -/

theorem resolve_eq_ok_iff :
    fs.resolve path = .ok node ↔ '\x00' ∉ path.toList ∧ path ≠ ""
      ∧ path.utf8ByteSize ≤ maxPath
      ∧ ∃ place, (fs.start path).walk (components path) = .ok place ∧ place.node = node := by
  unfold resolve
  split_ifs with hnul hempty hsize
  · simp [List.contains_iff_mem.mp hnul]
  · simp [String.isEmpty_iff.mp hempty]
  · simp [Nat.not_le.mpr hsize]
  · rw [List.contains_iff_mem] at hnul
    rw [String.isEmpty_iff] at hempty
    rw [Nat.not_lt] at hsize
    simp only [hnul, hempty, hsize, not_false_eq_true, ne_eq, true_and]
    cases (fs.start path).walk (components path) <;> simp

theorem list_eq_ok_iff :
    fs.list path = .ok entries ↔ fs.resolve path = .ok (.directory entries false) := by
  constructor
  · exact resolve_of_list
  · intro h
    rw [list, h]
    rfl

theorem isFileFault_of_list {failure : Failure} (h : fs.list path = .error failure) :
    failure.isFileFault = true ∨ failure = .nulInPath ∧ '\x00' ∈ path.toList := by
  unfold list at h
  split at h
  · next hresolve =>
    obtain rfl := Except.error.inj h
    exact isFileFault_of_resolve hresolve
  · exact .inl (Except.error.inj h ▸ rfl)
  · split_ifs at h
    exact .inl (Except.error.inj h ▸ rfl)

/-- The path of an entry resolves only if its directory can be listed, to what is listed there. -/
theorem exists_list_of_resolve_entry (hp : p.IsRead) (hparts : p.parts ≠ [])
    (hname : IsEntryName name) (h : fs.resolve (p.entry name).text = .ok node) :
    ∃ entries, fs.list p.text = .ok entries ∧ entries.lookup name = some node := by
  obtain ⟨hnul, -, hsize, -⟩ := resolve_eq_ok_iff.mp h
  obtain ⟨below, hbelow, rfl⟩ := exists_walk_of_resolve h
  have hread := hp.entry hname
  have hrooted : isRooted (p.entry name).text = isRooted p.text := by
    rw [Path.isRooted_text_eq hread, Path.isRooted_text_eq hp, Path.isAbsolute_entry]
  rw [Path.parse_text hread, start_congr hrooted, Path.entry, Place.walk_append] at hbelow
  -- The walk to the entry is the walk to its directory and one step more.
  cases hwalk : (fs.start p.text).walk p.parts with
  | error fault => rw [hwalk] at hbelow; cases hbelow
  | ok place =>
    rw [hwalk] at hbelow
    obtain ⟨next, hstep, hstay⟩ := Place.exists_step_of_walk hbelow
    obtain rfl := Except.ok.inj hstay
    obtain ⟨entries, hnode, ⟨hdot, -⟩ | ⟨hup, -⟩ | ⟨-, -, hlookup, -⟩⟩ := Place.step_cases hstep
    · exact absurd hdot hname.ne_dot
    · exact absurd hup hname.ne_up
    · refine ⟨entries, ?_, hlookup⟩
      have hcomponents : (components p.text).filter (· ≠ ".") = p.parts := by
        rw [filter_components, Path.parse_text hp]
      have htext := Path.text_entry hparts name
      rw [htext, String.toList_append, String.toList_append] at hnul
      rw [htext, String.utf8ByteSize_append, String.utf8ByteSize_append] at hsize
      refine list_eq_ok_iff.mpr (resolve_eq_ok_iff.mpr ⟨?_, Path.text_ne_empty hp hparts, ?_,
        place, Place.walk_of_walk_filter (hcomponents ▸ hwalk) hnode, hnode⟩)
      · intro hmem
        exact hnul (List.mem_append_left _ (List.mem_append_left _ hmem))
      · omega

theorem isDirectory_of_entry (hp : p.IsRead) (hparts : p.parts ≠ []) (hname : IsEntryName name)
    (h : fs.isDirectory (p.entry name).text = .ok true) : fs.isDirectory p.text = .ok true := by
  obtain ⟨node, hnode, -⟩ := isDirectory_eq_ok_true_iff.mp h
  obtain ⟨entries, hlist, -⟩ := exists_list_of_resolve_entry hp hparts hname hnode
  exact isDirectory_eq_ok_true_iff.mpr ⟨_, resolve_of_list hlist, rfl⟩

theorem IsTree.isEntryName_of_list (htree : fs.IsTree) (hlist : fs.list path = .ok entries)
    {e : String × Node} (he : e ∈ entries) : IsEntryName e.1 := by
  cases htree.resolve (resolve_of_list hlist) with
  | directory nodup names nodes => exact names e he

theorem IsTree.nodup_of_list (htree : fs.IsTree) (hlist : fs.list path = .ok entries) :
    (entries.map (·.1)).Nodup := by
  cases htree.resolve (resolve_of_list hlist) with
  | directory nodup names nodes => exact nodup

/-- In a tree the path of a listed entry leads to that entry, if it leads anywhere. -/
theorem IsTree.eq_of_resolve_entry (htree : fs.IsTree) (hp : p.IsRead)
    (hlist : fs.list p.text = .ok entries) {e : String × Node} (he : e ∈ entries)
    (h : fs.resolve (p.entry e.1).text = .ok node) : e.2 = node := by
  have hname := htree.isEntryName_of_list hlist he
  have hchild : fs.resolve ((Path.parse p.text).child e.1).text = .ok node := by
    rw [Path.parse_text hp, hname.child_eq_entry, h]
  have hlookup := lookup_of_resolve_child hlist hname hchild
  exact (htree.resolve (resolve_of_list hlist)).eq_of_lookup hlookup he

/-- The names in a directory that was listed, those that pass a test, in order. -/
theorem exists_namesIn (hlist : fs.list path = .ok entries) (keep : String → Bool) :
    ∃ names, fs.namesIn path keep = .ok names ∧ names.Perm ((entries.map (·.1)).filter keep)
      ∧ names.Pairwise (· ≤ ·) := by
  have hdirectory : fs.isDirectory path = .ok true :=
    isDirectory_eq_ok_true_iff.mpr ⟨_, resolve_of_list hlist, rfl⟩
  refine ⟨_, ?_, List.mergeSort_perm _ _, pairwise_sortedNames _⟩
  rw [namesIn, hdirectory, hlist]
  rfl

/-! ## Legible directories -/

/-- Whether a path can be listed without surprises: it can be asked about, and what is listed in it
can be found. -/
structure IsLegible (fs : FileSystem) (p : Path) : Prop where
  /-- The path was read. -/
  isRead : p.IsRead
  /-- It has a component. -/
  parts_ne_nil : p.parts ≠ []
  /-- The file system takes its text. -/
  not_mem_text : '\x00' ∉ p.text.toList
  /-- What is listed in it can be resolved. -/
  found : ∀ entries, fs.list p.text = .ok entries →
    ∀ e ∈ entries, ∃ node, fs.resolve (p.entry e.1).text = .ok node

namespace IsLegible

theorem examine_entry (h : fs.IsLegible p) (htree : fs.IsTree)
    (hlist : fs.list p.text = .ok entries) {e : String × Node} (he : e ∈ entries)
    (sort : Node → Bool) :
    fs.examine sort (p.entry e.1).text = .ok (sort e.2) := by
  obtain ⟨node, hnode⟩ := h.found entries hlist e he
  rw [examine, hnode, htree.eq_of_resolve_entry h.isRead hlist he hnode]

/-- Looking at a listed name always tells something. -/
theorem examine_eq_ok_decide (h : fs.IsLegible p) (htree : fs.IsTree)
    (hlist : fs.list p.text = .ok entries) (hname : name ∈ entries.map (·.1))
    (sort : Node → Bool) :
    fs.examine sort (p.entry name).text
      = .ok (decide (fs.examine sort (p.entry name).text = .ok true)) := by
  obtain ⟨e, he, rfl⟩ := List.mem_map.mp hname
  rw [h.examine_entry htree hlist he]
  cases sort e.2 <;> rfl

/-- In a legible directory the names of directories are those under which there is one. -/
theorem mem_filter_isDirectory_iff (h : fs.IsLegible p) (htree : fs.IsTree)
    (hlist : fs.list p.text = .ok entries) :
    name ∈ (entries.map (·.1)).filter
        (fun name ↦ fs.isDirectory (p.entry name).text = .ok true)
      ↔ IsEntryName name ∧ fs.isDirectory (p.entry name).text = .ok true := by
  rw [List.mem_filter, decide_eq_true_eq]
  refine and_congr_left fun hdirectory ↦ ⟨fun hmem ↦ ?_, fun hname ↦ ?_⟩
  · obtain ⟨e, he, rfl⟩ := List.mem_map.mp hmem
    exact htree.isEntryName_of_list hlist he
  · obtain ⟨node, hnode, -⟩ := isDirectory_eq_ok_true_iff.mp hdirectory
    obtain ⟨entries', hlist', hlookup⟩ :=
      exists_list_of_resolve_entry h.isRead h.parts_ne_nil hname hnode
    obtain rfl := Except.ok.inj (hlist.symm.trans hlist')
    obtain ⟨before, after, rfl, -⟩ := List.lookup_eq_some_iff.mp hlookup
    simp

/-- **The libraries of a legible directory** are the files in it that are named like one, each once
and in the order of the names. -/
theorem exists_libraries (h : fs.IsLegible p) (htree : fs.IsTree)
    (hlist : fs.list p.text = .ok entries) :
    ∃ names : List String, fs.libraries p = .ok (names.map fun name ↦ (p.entry name).text)
      ∧ names.Pairwise (· < ·)
      ∧ ∀ name, name ∈ names ↔ ".dll".toList <:+ name.toList
        ∧ ∃ node, (name, node) ∈ entries ∧ node.isFile = true := by
  have hfile : ∀ e ∈ entries, fs.isFile (p.entry e.1).text = .ok e.2.isFile :=
    fun e he ↦ h.examine_entry htree hlist he Node.isFile
  obtain ⟨listed, hlisted, hperm, hsorted⟩ := exists_namesIn hlist isLibraryName
  have hall : ∀ path ∈ listed.map fun name ↦ (p.entry name).text,
      fs.isFile path = .ok (decide (fs.isFile path = .ok true)) := by
    intro path hpath
    obtain ⟨name, hname, rfl⟩ := List.mem_map.mp hpath
    exact h.examine_eq_ok_decide htree hlist (List.mem_of_mem_filter (hperm.subset hname)) _
  refine ⟨listed.filter fun name ↦ fs.isFile (p.entry name).text = .ok true, ?_, ?_,
    fun name ↦ ?_⟩
  · rw [libraries, hlisted]
    exact (filterM_eq_ok hall).trans (congrArg _ List.filter_map)
  · have hnodup := hperm.symm.nodup ((htree.nodup_of_list hlist).filter _)
    have hlt := (hsorted.and hnodup).imp fun hle ↦ lt_of_le_of_ne hle.1 hle.2
    exact hlt.filter _
  · rw [List.mem_filter, hperm.mem_iff, List.mem_filter, decide_eq_true_eq, isLibraryName,
      List.isSuffixOf_iff_suffix]
    constructor
    · rintro ⟨⟨hmem, hsuffix⟩, hname⟩
      obtain ⟨e, he, rfl⟩ := List.mem_map.mp hmem
      exact ⟨hsuffix, e.2, he, Except.ok.inj ((hfile e he).symm.trans hname)⟩
    · rintro ⟨hsuffix, node, he, hnode⟩
      exact ⟨⟨List.mem_map.mpr ⟨_, he, rfl⟩, hsuffix⟩, hnode ▸ hfile (name, node) he⟩

end IsLegible

/-! ## Readable directories -/

/-- The paths that listing finds from a directory on. -/
inductive Beneath (fs : FileSystem) (top : Path) : Path → Prop where
  | self : Beneath fs top top
  | entry {p : Path} {entries : List (String × Node)} {e : String × Node}
    (directory : Beneath fs top p) (listed : fs.list p.text = .ok entries) (mem : e ∈ entries) :
    Beneath fs top (p.entry e.1)

/-- Whether a directory and everything beneath it can be read. -/
structure IsReadable (fs : FileSystem) (top : Path) : Prop where
  /-- The file system takes the text of the path. -/
  not_mem_text : '\x00' ∉ top.text.toList
  /-- The directories beneath it can be listed. -/
  listed : ∀ p, fs.Beneath top p → fs.isDirectory p.text = .ok true →
    ∃ entries, fs.list p.text = .ok entries
  /-- What is listed beneath it can be resolved. -/
  found : ∀ p, fs.Beneath top p → ∀ entries, fs.list p.text = .ok entries →
    ∀ e ∈ entries, ∃ node, fs.resolve (p.entry e.1).text = .ok node

/-- Whether a path leads to a file, or to an open directory whose entries are among the given
paths. -/
def isSettled (fs : FileSystem) (paths : List Path) (p : Path) : Bool :=
  match fs.resolve p.text with
  | .error _ => false
  | .ok (.file ..) => true
  | .ok (.directory entries closed) => !closed && entries.all fun e ↦ p.entry e.1 ∈ paths

/-- A list of paths that takes in what each of them lists takes in everything. -/
theorem Beneath.mem_of_closed {paths : List Path} (htop : top ∈ paths)
    (hclosed : ∀ p ∈ paths, ∀ entries, fs.list p.text = .ok entries →
      ∀ e ∈ entries, p.entry e.1 ∈ paths) (h : fs.Beneath top p) : p ∈ paths := by
  induction h with
  | self => exact htop
  | entry _ hlist hmem ih => exact hclosed _ ih _ hlist _ hmem

theorem Beneath.parts_ne_nil (htop : top.parts ≠ []) (h : fs.Beneath top p) : p.parts ≠ [] := by
  cases h with
  | self => exact htop
  | entry _ _ _ => exact List.concat_ne_nil _ _

theorem Beneath.isRead (htree : fs.IsTree) (htop : top.IsRead) (h : fs.Beneath top p) :
    p.IsRead := by
  induction h with
  | self => exact htop
  | entry _ hlist hmem ih => exact ih.entry (htree.isEntryName_of_list hlist hmem)

/-- What resolves as an entry of a path beneath lies beneath. -/
theorem Beneath.entry_of_resolve (h : fs.Beneath top p) (hp : p.IsRead) (hparts : p.parts ≠ [])
    (hname : IsEntryName name) (hnode : fs.resolve (p.entry name).text = .ok node) :
    fs.Beneath top (p.entry name) := by
  obtain ⟨entries, hlist, hlookup⟩ := exists_list_of_resolve_entry hp hparts hname hnode
  obtain ⟨before, after, rfl, -⟩ := List.lookup_eq_some_iff.mp hlookup
  exact h.entry (e := (name, node)) hlist (by simp)

theorem Beneath.entry_of_isDirectory (h : fs.Beneath top p) (hp : p.IsRead) (hparts : p.parts ≠ [])
    (hname : IsEntryName name) (hdirectory : fs.isDirectory (p.entry name).text = .ok true) :
    fs.Beneath top (p.entry name) := by
  obtain ⟨node, hnode, -⟩ := isDirectory_eq_ok_true_iff.mp hdirectory
  exact h.entry_of_resolve hp hparts hname hnode

namespace IsReadable

/-- A directory is readable if it is among paths that all lead to files or to open directories
whose entries are among the paths again, and nothing else lies beneath it. -/
theorem of_forall_settled {paths : List Path} (htop : top ∈ paths)
    (hsettled : ∀ p ∈ paths, fs.isSettled paths p = true) :
    fs.IsReadable top ∧ ∀ p, fs.Beneath top p → p ∈ paths := by
  have hfound : ∀ p ∈ paths, ∃ node, fs.resolve p.text = .ok node := by
    intro p hp
    have h := hsettled p hp
    rw [isSettled] at h
    cases hnode : fs.resolve p.text with
    | ok node => exact ⟨node, rfl⟩
    | error failure => rw [hnode] at h; cases h
  have hentries : ∀ p ∈ paths, ∀ entries closed,
      fs.resolve p.text = .ok (.directory entries closed) →
        closed = false ∧ ∀ e ∈ entries, p.entry e.1 ∈ paths := by
    intro p hp entries closed hnode
    have h := hsettled p hp
    rw [isSettled, hnode, Bool.and_eq_true, Bool.not_eq_true', List.all_eq_true] at h
    exact ⟨h.1, fun e he ↦ of_decide_eq_true (h.2 e he)⟩
  have hpaths : ∀ p, fs.Beneath top p → p ∈ paths := by
    intro p hp
    refine hp.mem_of_closed htop fun p hp entries hlist e he ↦ ?_
    exact (hentries p hp entries false (resolve_of_list hlist)).2 e he
  refine ⟨⟨?_, fun p hp hdirectory ↦ ?_, fun p hp entries hlist e he ↦ ?_⟩, hpaths⟩
  · obtain ⟨node, hnode⟩ := hfound top htop
    exact (resolve_eq_ok_iff.mp hnode).1
  · obtain ⟨node, hnode, hsort⟩ := isDirectory_eq_ok_true_iff.mp hdirectory
    cases node with
    | file contents closed => cases hsort
    | directory entries closed =>
      obtain ⟨rfl, -⟩ := hentries p (hpaths p hp) entries closed hnode
      exact ⟨entries, list_eq_ok_iff.mpr hnode⟩
  · exact hfound _ ((hentries p (hpaths p hp) entries false (resolve_of_list hlist)).2 e he)

variable (hreadable : fs.IsReadable top) (htree : fs.IsTree) (htop : top.IsRead)
  (hparts : top.parts ≠ [])

include hreadable htree htop hparts

/-- Every path beneath a readable directory is legible. -/
theorem isLegible (h : fs.Beneath top p) : fs.IsLegible p where
  isRead := h.isRead htree htop
  parts_ne_nil := h.parts_ne_nil hparts
  not_mem_text := by
    cases h with
    | self => exact hreadable.not_mem_text
    | entry hdirectory hlist hmem =>
      obtain ⟨node, hnode⟩ := hreadable.found _ hdirectory _ hlist _ hmem
      exact (resolve_eq_ok_iff.mp hnode).1
  found := hreadable.found p h

/-- A path beneath a readable directory stays legible when a name is added to it, whether there is
such an entry or not. -/
theorem isLegible_entry (h : fs.Beneath top p) (hname : IsEntryName name)
    (hnul : '\x00' ∉ name.toList) : fs.IsLegible (p.entry name) where
  isRead := (h.isRead htree htop).entry hname
  parts_ne_nil := List.concat_ne_nil _ _
  not_mem_text := by
    have hp := (hreadable.isLegible htree htop hparts h).not_mem_text
    rw [Path.text_entry (h.parts_ne_nil hparts), String.toList_append, String.toList_append,
      List.mem_append, List.mem_append, not_or, not_or]
    exact ⟨⟨hp, by decide⟩, hnul⟩
  found := by
    intro entries hlist
    have hbeneath := h.entry_of_resolve (h.isRead htree htop) (h.parts_ne_nil hparts) hname
      (resolve_of_list hlist)
    exact hreadable.found _ hbeneath entries hlist

end IsReadable

end FileSystem

end FSharpFlags
