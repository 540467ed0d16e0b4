import FSharpFlags.FileSystem.Build
import FSharpFlags.Proofs.PathText

/-!
# Where the text of a path leads

A path text is resolved name by name. Reading the text as a path and spelling it again leaves out
separators and names that are `.`, and resolving the new text takes the same steps but for those
that stay where they are. So when both texts lead somewhere, they lead to the same place. The old
text may well lead nowhere while the new one leads somewhere: `f/.` asks for a directory, and `f`
does not.

The entries of a directory that was listed under one text are therefore what is found under the
texts of its children, as far as those lead anywhere. That the entry of a name is found under it and
not another one takes a file system in which names do not repeat and can be written in a path. Such
a file system is called a tree here, and placing and closing nodes makes trees of trees.
-/

namespace FSharpFlags

/-- Whether a text can be the name of an entry: it is a component of paths that does not lead up. -/
structure IsEntryName (name : String) : Prop where
  /-- It is neither empty nor `.`. -/
  isPart : Path.isPart name.toList = true
  /-- It is not `..`. -/
  ne_up : name ≠ ".."
  /-- It has no separator. -/
  not_mem : '/' ∉ name.toList

namespace IsEntryName

variable {name : String}

instance (name : String) : Decidable (IsEntryName name) :=
  decidable_of_iff (Path.isPart name.toList = true ∧ name ≠ ".." ∧ '/' ∉ name.toList)
    ⟨fun h ↦ ⟨h.1, h.2.1, h.2.2⟩, fun h ↦ ⟨h.isPart, h.ne_up, h.not_mem⟩⟩

theorem ne_empty (h : IsEntryName name) : name ≠ "" := by
  rintro rfl
  exact absurd h.isPart (by decide)

theorem ne_dot (h : IsEntryName name) : name ≠ "." := by
  rintro rfl
  exact absurd h.isPart (by decide)

/-- Reading an entry name as a path gives the one component. -/
theorem parse_eq (h : IsEntryName name) : Path.parse name = ⟨.relative, [name]⟩ := by
  have hread : Path.IsRead ⟨.relative, [name]⟩ :=
    fun part hpart ↦ List.mem_singleton.mp hpart ▸ ⟨h.isPart, h.not_mem⟩
  have htext : Path.text ⟨.relative, [name]⟩ = name := by
    rw [Path.text_of_parts_ne_nil (List.cons_ne_nil _ _), String.intercalate_singleton]
    exact String.empty_append
  conv_lhs => rw [← htext]
  exact Path.parse_text hread

theorem child_eq_entry (h : IsEntryName name) (p : Path) : p.child name = p.entry name := by
  rw [Path.child, h.parse_eq, Path.join_of_relative rfl, Path.entry]

end IsEntryName

theorem Path.isRooted_text_eq {p : Path} (h : p.IsRead) : isRooted p.text = p.isAbsolute := by
  rw [← isAbsolute_parse, parse_text h]

/-! ## Trees -/

namespace Node

/-- Whether the entries of every directory have different names that can be written in a path. -/
inductive IsTree : Node → Prop where
  | file (contents : ByteArray) (closed : Bool) : IsTree (.file contents closed)
  | directory {entries : List (String × Node)} {closed : Bool}
    (nodup : (entries.map (·.1)).Nodup) (names : ∀ e ∈ entries, IsEntryName e.1)
    (nodes : ∀ e ∈ entries, IsTree e.2) : IsTree (.directory entries closed)

variable {node new old : Node} {entries : List (String × Node)} {closed : Bool} {name : String}
  {names : List String}

theorem isTree_emptyDirectory : IsTree emptyDirectory :=
  .directory List.nodup_nil (by simp) (by simp)

theorem IsTree.of_lookup (h : IsTree (.directory entries closed))
    (hlookup : entries.lookup name = some node) : node.IsTree := by
  obtain ⟨before, after, rfl, -⟩ := List.lookup_eq_some_iff.mp hlookup
  cases h with
  | directory nodup hnames hnodes => exact hnodes (name, node) (by simp)

/-- In a tree an entry is the one that is found under its name. -/
theorem IsTree.eq_of_lookup (h : IsTree (.directory entries closed))
    (hlookup : entries.lookup name = some node) (hentry : (name, new) ∈ entries) : new = node := by
  obtain ⟨before, after, hsplit, -⟩ := List.lookup_eq_some_iff.mp hlookup
  have hfound : (name, node) ∈ entries := by rw [hsplit]; simp
  cases h with
  | directory nodup hnames hnodes =>
    exact (Prod.mk.inj (List.inj_on_of_nodup_map nodup hentry hfound rfl)).2

theorem map_fst_alter (change : Option Node → Node) (name : String)
    (entries : List (String × Node)) :
    (alter change name entries).map (·.1)
      = if name ∈ entries.map (·.1) then entries.map (·.1) else entries.map (·.1) ++ [name] := by
  induction entries with
  | nil => rfl
  | cons e rest ih =>
    obtain ⟨n, node⟩ := e
    rw [alter]
    by_cases hn : n = name
    · simp [hn]
    · rw [if_neg hn, List.map_cons, ih]
      simp only [List.map_cons, List.mem_cons, Ne.symm hn, false_or]
      split <;> rfl

/-- What stands in a changed list of entries stood there before or is the changed entry. -/
theorem of_mem_alter {change : Option Node → Node} {e : String × Node}
    (h : e ∈ alter change name entries) :
    e ∈ entries ∨ e.1 = name ∧ (e.2 = change none ∨ ∃ f ∈ entries, e.2 = change (some f.2)) := by
  induction entries with
  | nil =>
    obtain rfl := List.mem_singleton.mp h
    exact .inr ⟨rfl, .inl rfl⟩
  | cons f rest ih =>
    obtain ⟨n, node⟩ := f
    rw [alter] at h
    split_ifs at h with hn
    · rcases List.mem_cons.mp h with rfl | h
      · exact .inr ⟨hn, .inr ⟨_, List.mem_cons_self, rfl⟩⟩
      · exact .inl (List.mem_cons_of_mem _ h)
    · rcases List.mem_cons.mp h with rfl | h
      · exact .inl List.mem_cons_self
      · rcases ih h with hmem | ⟨hname, hnone | ⟨f, hf, hsome⟩⟩
        · exact .inl (List.mem_cons_of_mem _ hmem)
        · exact .inr ⟨hname, .inl hnone⟩
        · exact .inr ⟨hname, .inr ⟨f, List.mem_cons_of_mem _ hf, hsome⟩⟩

/-- Putting a tree into a tree makes a tree. -/
theorem IsTree.put (hnew : new.IsTree) (hnames : ∀ n ∈ names, IsEntryName n)
    (hold : old.IsTree) : (Node.put new names old).IsTree := by
  induction names generalizing old with
  | nil =>
    rw [Node.put]
    split
    · exact hold
    · exact hnew
  | cons name rest ih =>
    rw [List.forall_mem_cons] at hnames
    cases hold with
    | file contents closed => exact .file contents closed
    | directory nodup hentries hnodes =>
      refine .directory ?_ (fun e he ↦ ?_) fun e he ↦ ?_
      · rw [map_fst_alter]
        split
        · exact nodup
        · next hfresh => exact List.concat_eq_append ▸ nodup.concat hfresh
      · rcases of_mem_alter he with he | ⟨hname, -⟩
        · exact hentries e he
        · exact hname ▸ hnames.1
      · rcases of_mem_alter he with he | ⟨-, hnone | ⟨f, hf, hsome⟩⟩
        · exact hnodes e he
        · exact hnone ▸ ih hnames.2 isTree_emptyDirectory
        · exact hsome ▸ ih hnames.2 (hnodes f hf)

/-- Closing a node leaves a tree a tree. -/
theorem IsTree.close (names : List String) (h : node.IsTree) : (Node.close names node).IsTree := by
  induction names generalizing node with
  | nil =>
    cases h with
    | file contents closed => exact .file contents true
    | directory nodup hentries hnodes => exact .directory nodup hentries hnodes
  | cons name rest ih =>
    cases h with
    | file contents closed => exact .file contents closed
    | directory nodup hentries hnodes =>
      have hnames : ∀ entries : List (String × Node), (entries.map fun e ↦
          if e.1 = name then (e.1, Node.close rest e.2) else e).map (·.1) = entries.map (·.1) := by
        intro entries
        rw [List.map_map]
        refine List.map_congr_left fun e _ ↦ ?_
        rw [Function.comp_apply]
        split <;> rfl
      refine .directory (by rw [hnames]; exact nodup) (fun e he ↦ ?_) fun e he ↦ ?_
      · obtain ⟨f, hf, rfl⟩ := List.mem_map.mp he
        split
        · exact hentries f hf
        · exact hentries f hf
      · obtain ⟨f, hf, rfl⟩ := List.mem_map.mp he
        split
        · exact ih (hnodes f hf)
        · exact hnodes f hf

end Node

namespace Place

variable {p q : Place} {name : String} {names : List String}

/-- Whether a place lies in a tree. -/
structure IsTree (p : Place) : Prop where
  /-- The node reached is a tree. -/
  node : p.node.IsTree
  /-- The directories above are trees. -/
  above : ∀ n ∈ p.above, n.IsTree

theorem IsTree.up (h : p.IsTree) : p.up.IsTree := by
  obtain ⟨node, above⟩ := p
  cases above with
  | nil => exact h
  | cons parent rest =>
    have habove := List.forall_mem_cons.mp h.above
    exact ⟨habove.1, habove.2⟩

theorem IsTree.below {node : Node} (h : p.IsTree) (hentry : p.node.entry? name = some node) :
    IsTree ⟨node, p.node :: p.above⟩ := by
  refine ⟨?_, List.forall_mem_cons.mpr ⟨h.node, h.above⟩⟩
  obtain ⟨node', above⟩ := p
  cases node' with
  | file contents closed => cases hentry
  | directory entries closed => exact h.node.of_lookup hentry

/-- What following one component comes to: it stays, goes up, or goes to the entry of the name. -/
theorem step_cases (h : p.step name = .ok q) :
    ∃ entries, p.node = .directory entries false
      ∧ (name = "." ∧ q = p ∨ name = ".." ∧ q = p.up
        ∨ name ≠ "." ∧ name ≠ ".." ∧ entries.lookup name = some q.node
          ∧ q.above = p.node :: p.above) := by
  unfold step at h
  split at h
  · cases h
  · next entries closed hnode =>
    split_ifs at h with hclosed hdot hup hlong
    · obtain rfl := Except.ok.inj h
      exact ⟨entries, by rw [hnode, Bool.eq_false_iff.mpr hclosed], .inl ⟨hdot, rfl⟩⟩
    · obtain rfl := Except.ok.inj h
      exact ⟨entries, by rw [hnode, Bool.eq_false_iff.mpr hclosed], .inr (.inl ⟨hup, rfl⟩)⟩
    · split at h
      · next node hlookup =>
        obtain rfl := Except.ok.inj h
        exact ⟨entries, by rw [hnode, Bool.eq_false_iff.mpr hclosed],
          .inr (.inr ⟨hdot, hup, hlookup, rfl⟩)⟩
      · cases h

theorem IsTree.step (h : p.IsTree) (hstep : p.step name = .ok q) : q.IsTree := by
  obtain ⟨entries, hnode, ⟨-, rfl⟩ | ⟨-, rfl⟩ | ⟨-, -, hlookup, habove⟩⟩ := step_cases hstep
  · exact h
  · exact h.up
  · have hentry : p.node.entry? name = some q.node := by rw [hnode]; exact hlookup
    have hbelow := h.below hentry
    rw [← habove] at hbelow
    exact hbelow

theorem exists_step_of_walk (h : p.walk (name :: names) = .ok q) :
    ∃ next, p.step name = .ok next ∧ next.walk names = .ok q := by
  rw [walk_cons] at h
  cases hstep : p.step name with
  | error fault => rw [hstep] at h; cases h
  | ok next => rw [hstep] at h; exact ⟨next, rfl, h⟩

theorem IsTree.walk (h : p.IsTree) (hwalk : p.walk names = .ok q) : q.IsTree := by
  induction names generalizing p with
  | nil =>
    obtain rfl := Except.ok.inj hwalk
    exact h
  | cons name rest ih =>
    obtain ⟨next, hstep, hrest⟩ := exists_step_of_walk hwalk
    exact ih (h.step hstep) hrest

theorem walk_append (p : Place) (front back : List String) :
    p.walk (front ++ back) = (p.walk front).bind (·.walk back) := by
  induction front generalizing p with
  | nil => rfl
  | cons name rest ih =>
    rw [List.cons_append, walk_cons, walk_cons]
    cases p.step name with
    | error fault => rfl
    | ok next => exact ih next

/-- A walk that arrives does so without the steps that stay where they are. -/
theorem walk_filter (h : p.walk names = .ok q) : p.walk (names.filter (· ≠ ".")) = .ok q := by
  induction names generalizing p with
  | nil => exact h
  | cons name rest ih =>
    obtain ⟨next, hstep, hrest⟩ := exists_step_of_walk h
    by_cases hdot : name = "."
    · obtain ⟨entries, -, ⟨-, rfl⟩ | ⟨hup, -⟩ | ⟨hne, -⟩⟩ := step_cases hstep
      · rw [List.filter_cons_of_neg (by simpa using hdot)]
        exact ih hrest
      · exact absurd (hdot.symm.trans hup) (by decide)
      · exact absurd hdot hne
    · rw [List.filter_cons_of_pos (by simpa using hdot), walk_cons, hstep]
      exact ih hrest

end Place

namespace FileSystem

variable {fs : FileSystem} {path name : String}

/-- Whether a file system is a tree. -/
def IsTree (fs : FileSystem) : Prop := fs.root.IsTree

theorem isEntryName_of_mem_pathNames (hdot : name ≠ ".") (hup : name ≠ "..")
    (h : name ∈ pathNames path) : IsEntryName name := by
  obtain ⟨piece, hpiece, rfl⟩ := List.mem_map.mp h
  rw [List.mem_filter] at hpiece
  have hne : piece ≠ [] := by simpa using hpiece.2
  have hpart : piece ≠ ['.'] := by
    rintro rfl
    exact hdot rfl
  refine ⟨?_, hup, ?_⟩
  · rw [String.toList_ofList, Path.isPart, decide_eq_true hne, decide_eq_true hpart]
    rfl
  · rw [String.toList_ofList]
    exact not_mem_of_mem_splitOn hpiece.1

/-- Whether a path text can be written without `.` and `..`. -/
def IsPlainPath (path : String) : Prop := ∀ name ∈ pathNames path, name ≠ "." ∧ name ≠ ".."

instance (path : String) : Decidable (IsPlainPath path) :=
  inferInstanceAs (Decidable (∀ name ∈ pathNames path, name ≠ "." ∧ name ≠ ".."))

theorem IsPlainPath.isEntryName (h : IsPlainPath path) :
    ∀ name ∈ pathNames path, IsEntryName name :=
  fun name hname ↦ isEntryName_of_mem_pathNames (h name hname).1 (h name hname).2 hname

theorem isTree_empty (h : IsPlainPath path) : (empty path).IsTree :=
  Node.isTree_emptyDirectory.put h.isEntryName Node.isTree_emptyDirectory

theorem IsTree.withFile (h : fs.IsTree) (hpath : IsPlainPath path) (contents : ByteArray) :
    (fs.withFile path contents).IsTree :=
  Node.IsTree.put (.file contents false) hpath.isEntryName h

theorem IsTree.withDirectory (h : fs.IsTree) (hpath : IsPlainPath path) :
    (fs.withDirectory path).IsTree :=
  Node.isTree_emptyDirectory.put hpath.isEntryName h

theorem IsTree.withClosed (h : fs.IsTree) (path : String) : (fs.withClosed path).IsTree :=
  Node.IsTree.close (pathNames path) h

/-! ## Places -/

theorem IsTree.descend {p : Place} (h : p.IsTree) (names : List String) :
    (descend p names).IsTree := by
  induction names generalizing p with
  | nil => exact h
  | cons name rest ih =>
    rw [FileSystem.descend]
    split
    · next node hentry => exact ih (h.below hentry)
    · exact h

theorem IsTree.start (h : fs.IsTree) (path : String) : (fs.start path).IsTree := by
  have htop : fs.top.IsTree := ⟨h, by simp [top]⟩
  unfold FileSystem.start
  split
  · exact htop
  · exact IsTree.descend htop _

/-- The components of a path text, but for those that are `.`, are the parts of the path. -/
theorem filter_components (path : String) :
    (components path).filter (· ≠ ".") = (Path.parse path).parts := by
  have hnames : (pathNames path).filter (· ≠ ".") = (Path.parse path).parts := by
    rw [pathNames, Path.parse, List.filter_map, List.filter_filter]
    congr 1
    refine List.filter_congr fun piece _ ↦ ?_
    have hdot : (String.ofList piece = ".") ↔ piece = ['.'] := by
      rw [← String.toList_inj, String.toList_ofList]
      rfl
    have hempty : piece.isEmpty = decide (piece = []) := by cases piece <;> rfl
    simp [Path.isPart, hdot, hempty, Bool.and_comm]
  rw [components]
  split
  · rw [List.filter_append, hnames]
    exact List.append_nil _
  · exact hnames

/-- A path text that leads nowhere met a fault on its way, unless no path can be written so. -/
theorem isFileFault_of_resolve {failure : Failure} (h : fs.resolve path = .error failure) :
    failure.isFileFault = true ∨ failure = .nulInPath ∧ '\x00' ∈ path.toList := by
  unfold resolve at h
  split_ifs at h with hnul
  · exact .inr ⟨(Except.error.inj h).symm, List.contains_iff_mem.mp hnul⟩
  · exact .inl (Except.error.inj h ▸ rfl)
  · exact .inl (Except.error.inj h ▸ rfl)
  · split at h
    · cases h
    · exact .inl (Except.error.inj h ▸ rfl)

/-- What a path text leads to is reached along the parts of the path. -/
theorem exists_walk_of_resolve {node : Node} (h : fs.resolve path = .ok node) :
    ∃ place, (fs.start path).walk (Path.parse path).parts = .ok place ∧ place.node = node := by
  unfold resolve at h
  split_ifs at h
  split at h
  · next place hwalk =>
    refine ⟨place, ?_, Except.ok.inj h⟩
    rw [← filter_components]
    exact Place.walk_filter hwalk
  · cases h

theorem IsTree.resolve {node : Node} (h : fs.IsTree) (hnode : fs.resolve path = .ok node) :
    node.IsTree := by
  obtain ⟨place, hwalk, rfl⟩ := exists_walk_of_resolve hnode
  exact ((h.start path).walk hwalk).node

/-! ## Listed directories -/

theorem resolve_of_list {entries : List (String × Node)} (h : fs.list path = .ok entries) :
    fs.resolve path = .ok (.directory entries false) := by
  unfold list at h
  split at h
  · cases h
  · cases h
  · next hnode =>
    split_ifs at h with hclosed
    rw [← Except.ok.inj h, hnode, Bool.eq_false_iff.mpr hclosed]

theorem start_congr {path' : String} (h : isRooted path = isRooted path') :
    fs.start path = fs.start path' := by
  rw [isRooted, isRooted, decide_eq_decide] at h
  unfold start
  rw [if_congr h rfl rfl]

/-- What is found under the text of a child of a listed directory is its entry of the name. -/
theorem lookup_of_resolve_child {directory : String} {entries : List (String × Node)} {node : Node}
    (hlist : fs.list directory = .ok entries) (hname : IsEntryName name)
    (hnode : fs.resolve ((Path.parse directory).child name).text = .ok node) :
    entries.lookup name = some node := by
  obtain ⟨place, hplace, hentries⟩ := exists_walk_of_resolve (resolve_of_list hlist)
  obtain ⟨below, hbelow, rfl⟩ := exists_walk_of_resolve hnode
  have hread := (Path.isRead_parse directory).child name
  have hrooted : isRooted ((Path.parse directory).child name).text = isRooted directory := by
    rw [Path.isRooted_text_eq hread, hname.child_eq_entry, Path.isAbsolute_entry,
      Path.isAbsolute_parse]
  rw [Path.parse_text hread, start_congr hrooted, hname.child_eq_entry, Path.entry,
    Place.walk_append, hplace] at hbelow
  obtain ⟨next, hstep, hstay⟩ := Place.exists_step_of_walk hbelow
  obtain rfl := Except.ok.inj hstay
  obtain ⟨entries', hnode', ⟨hdot, -⟩ | ⟨hup, -⟩ | ⟨-, -, hlookup, -⟩⟩ := Place.step_cases hstep
  · exact absurd hdot hname.ne_dot
  · exact absurd hup hname.ne_up
  · obtain ⟨rfl, -⟩ := Node.directory.inj (hentries.symm.trans hnode')
    exact hlookup

end FileSystem

end FSharpFlags
