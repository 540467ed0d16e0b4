import FSharpFlags.Project.Collection
import FSharpFlags.Proofs.DirectoryListing
import FSharpFlags.Proofs.DocumentReading
import FSharpFlags.Proofs.ReferenceList
import FSharpFlags.Runtime.MonoInstall

/-!
# The layout of an installation

An installation lists its frameworks by walking through directories and answers whether one of them
is installed by a look at a path. The libraries of a portable profile are found beneath a path as
well. Each of the three spells the path of a framework in its own way: the list takes the version
mark off the name of a directory, the two others put it in front of a version and read the family
and the profile as texts.

They mean the same directories where the installation follows its documented layout, in which the
name of a version directory is the mark and a version that does not begin with one. A directory
`vv4`, say, would be listed as the version `v4`, and that version is looked for in `v4`.
-/

namespace FSharpFlags

variable {fs : FileSystem}

/-- Parts that can all be had are gathered, with their elements. -/
theorem exists_gathered {α β : Type} {g : α → Except Failure (List β)} {P : α → β → Prop}
    {as : List α} (h : ∀ a ∈ as, ∃ part, g a = .ok part ∧ ∀ b, b ∈ part ↔ P a b) :
    ∃ parts, as.mapM g = .ok parts ∧ ∀ b, b ∈ parts.flatten ↔ ∃ a ∈ as, P a b := by
  obtain ⟨parts, hmapM⟩ := exists_mapM_eq_ok_iff.mpr fun a ha ↦
    (h a ha).imp fun _ hpart ↦ hpart.1
  refine ⟨parts, hmapM, fun b ↦ ?_⟩
  rw [mem_flatten_iff_of_mapM hmapM]
  constructor
  · rintro ⟨a, ha, part, hpart, hb⟩
    obtain ⟨part', hpart', hmem⟩ := h a ha
    obtain rfl := Except.ok.inj (hpart.symm.trans hpart')
    exact ⟨a, ha, (hmem b).mp hb⟩
  · rintro ⟨a, ha, hP⟩
    obtain ⟨part, hpart, hmem⟩ := h a ha
    exact ⟨a, ha, part, hpart, (hmem b).mpr hP⟩

namespace MonoInstall

variable {root p : Path} {m : Moniker} {family name : String}

/-! ## Directories of frameworks -/

/-- The directory of a family. -/
def familyDirectory (root : Path) (family : String) : Path := (frameworksRoot root).entry family

/-- The directory of a version of a family. -/
def versionDirectory (root : Path) (m : Moniker) : Path :=
  (familyDirectory root m.identifier).entry ("v" ++ m.version)

/-- The directory of a framework. -/
def frameworkDirectory (root : Path) (m : Moniker) : Path :=
  if m.isPortable then ((versionDirectory root m).entry "Profile").entry m.profile
  else versionDirectory root m

/-- Whether family, version and profile of a moniker can be names of directories and the version
has no mark. -/
structure IsFiled (m : Moniker) : Prop where
  /-- The family is one component. -/
  identifier : IsEntryName m.identifier
  /-- The version is no more than one component. -/
  version : '/' ∉ m.version.toList
  /-- The version has no mark. -/
  unmarked : Moniker.isMarked m.version = false
  /-- The profile is one component, if there is one. -/
  profile : m.profile = "" ∨ IsEntryName m.profile

theorem isEntryName_profile : IsEntryName "Profile" := by decide

theorem isEntryName_portable : IsEntryName Moniker.portable := by decide

theorem isEntryName_mark_append {version : String} (h : '/' ∉ version.toList) :
    IsEntryName ("v" ++ version) := by
  have htext : ("v" ++ version).toList = 'v' :: version.toList := by simp
  refine ⟨?_, ?_, ?_⟩
  · simp [htext, Path.isPart]
  · intro hup
    rw [hup] at htext
    cases htext
  · rw [htext, List.mem_cons, not_or]
    exact ⟨by decide, h⟩

theorem bareVersion_mark_append (version : String) :
    Moniker.bareVersion ("v" ++ version) = version := by
  simp [Moniker.bareVersion, Moniker.isMarked]

theorem frameworkDirectory_of_full (h : m.profile = "") :
    frameworkDirectory root m = versionDirectory root m := by
  rw [frameworkDirectory, if_neg fun hportable ↦ (m.isPortable_iff.mp hportable) h]

theorem frameworkDirectory_of_profile (h : m.profile ≠ "") :
    frameworkDirectory root m = ((versionDirectory root m).entry "Profile").entry m.profile := by
  rw [frameworkDirectory, if_pos (m.isPortable_iff.mpr h)]

/-- The path under which a framework is looked for is that of its directory. -/
theorem join_assemblyDirectory (hm : IsFiled m) :
    (frameworksRoot root).join m.assemblyDirectory = frameworkDirectory root m := by
  have hmarked : Moniker.markedVersion m.version = "v" ++ m.version := by
    rw [Moniker.markedVersion, hm.unmarked]
    rfl
  have hversion := (isEntryName_mark_append hm.version).child_eq_entry (.parse m.identifier)
  rw [Moniker.assemblyDirectory, hmarked, hversion, hm.identifier.parse_eq]
  by_cases hprofile : m.profile = ""
  · rw [frameworkDirectory_of_full hprofile, if_neg (by simpa [m.isPortable_iff] using hprofile)]
    simp [Path.join_of_relative, Path.entry, versionDirectory, familyDirectory]
  · have hname := hm.profile.resolve_left hprofile
    rw [frameworkDirectory_of_profile hprofile, if_pos (m.isPortable_iff.mpr hprofile)]
    simp [isEntryName_profile.child_eq_entry, hname.child_eq_entry, Path.join_of_relative,
      Path.entry, versionDirectory, familyDirectory]

/-- Apart from the full desktop frameworks, a framework is installed if it has its directory. -/
theorem isInstalled_eq (hm : IsFiled m) (hkind : m.profile ≠ "" ∨ m.identifier ≠ Moniker.desktop) :
    isInstalled fs root m = fs.isDirectory (frameworkDirectory root m).text := by
  have hdesktop : ¬(m.identifier = Moniker.desktop ∧ m.isPortable = false) := by
    rintro ⟨hid, hfull⟩
    rcases hkind with hprofile | hfamily
    · exact absurd (m.isPortable_iff.mpr hprofile) (by simp [hfull])
    · exact hfamily hid
  rw [isInstalled, if_neg hdesktop, join_assemblyDirectory hm]

/-! ## The list of frameworks -/

/-- The directories in a legible path are those that can be found there. -/
theorem exists_subdirectories (htree : fs.IsTree) (h : fs.IsLegible p) :
    ∃ names, subdirectories fs p = .ok names
      ∧ ∀ name, name ∈ names
        ↔ IsEntryName name ∧ fs.isDirectory (p.entry name).text = .ok true := by
  cases hlist : fs.list p.text with
  | error failure =>
    have hfault : failure.isFileFault = true := by
      refine (FileSystem.isFileFault_of_list hlist).resolve_right ?_
      rintro ⟨-, hnul⟩
      exact h.not_mem_text hnul
    refine ⟨[], by simp [subdirectories, hlist, hfault, bind, Except.bind], fun name ↦ ?_⟩
    refine iff_of_false List.not_mem_nil ?_
    rintro ⟨hname, hdirectory⟩
    obtain ⟨node, hnode, -⟩ := FileSystem.isDirectory_eq_ok_true_iff.mp hdirectory
    obtain ⟨entries, hentries, -⟩ :=
      FileSystem.exists_list_of_resolve_entry h.isRead h.parts_ne_nil hname hnode
    cases hlist.symm.trans hentries
  | ok entries =>
    have hfilter : (entries.map (·.1)).filterM
        (fun name ↦ fs.isDirectory (p.entry name).text)
        = .ok ((entries.map (·.1)).filter
          fun name ↦ fs.isDirectory (p.entry name).text = .ok true) :=
      filterM_eq_ok fun name hname ↦ h.examine_eq_ok_decide htree hlist hname Node.isDirectory
    refine ⟨_, by simp only [subdirectories, hlist, bind, Except.bind, hfilter]; rfl,
      fun name ↦ ?_⟩
    rw [← h.mem_filter_isDirectory_iff htree hlist]
    exact (List.mergeSort_perm _ _).mem_iff

/-- Whether a profile is empty or has its directory. -/
def HasProfile (fs : FileSystem) (directory : Path) (profile : String) : Prop :=
  profile = "" ∨ IsEntryName profile
    ∧ fs.isDirectory ((directory.entry "Profile").entry profile).text = .ok true

theorem exists_versionFrameworks (htree : fs.IsTree) (h : fs.IsLegible (p.entry "Profile")) :
    ∃ listed, versionFrameworks fs family p = .ok listed
      ∧ ∀ d, d ∈ listed ↔ d.displayName = "" ∧ d.moniker.identifier = family
        ∧ d.moniker.version = Moniker.bareVersion p.name
        ∧ HasProfile fs p d.moniker.profile := by
  obtain ⟨profiles, hprofiles, hmem⟩ := exists_subdirectories htree h
  refine ⟨_, by rw [versionFrameworks, isEntryName_profile.child_eq_entry, hprofiles]; rfl, ?_⟩
  rintro ⟨⟨identifier, version, profile⟩, displayName⟩
  rw [List.mem_cons, List.mem_map, HasProfile]
  simp only [FrameworkDescriptor.mk.injEq, Moniker.mk.injEq, ← hmem]
  constructor
  · rintro (⟨⟨rfl, rfl, rfl⟩, rfl⟩ | ⟨profile, hprofile, ⟨rfl, rfl, rfl⟩, rfl⟩)
    · exact ⟨rfl, rfl, rfl, .inl rfl⟩
    · exact ⟨rfl, rfl, rfl, .inr hprofile⟩
  · rintro ⟨rfl, rfl, rfl, rfl | hprofile⟩
    · exact .inl ⟨⟨rfl, rfl, rfl⟩, rfl⟩
    · exact .inr ⟨profile, hprofile, ⟨rfl, rfl, rfl⟩, rfl⟩

/-! ### Readable installations -/

theorem isRead_frameworksRoot (hroot : root.IsRead) : (frameworksRoot root).IsRead := hroot.child _

theorem parts_frameworksRoot_ne_nil (root : Path) : (frameworksRoot root).parts ≠ [] :=
  List.concat_ne_nil _ _

theorem isRead_familyDirectory (hroot : root.IsRead) (hfamily : IsEntryName family) :
    (familyDirectory root family).IsRead := (isRead_frameworksRoot hroot).entry hfamily

theorem parts_familyDirectory_ne_nil (root : Path) (family : String) :
    (familyDirectory root family).parts ≠ [] := List.concat_ne_nil _ _

section Readable

variable (htree : fs.IsTree) (hroot : root.IsRead) (hreadable : fs.IsReadable (frameworksRoot root))

include htree hroot hreadable

theorem exists_familyFrameworks (hfamily : IsEntryName family)
    (hdirectory : fs.isDirectory (familyDirectory root family).text = .ok true) :
    ∃ listed, familyFrameworks fs root family = .ok listed
      ∧ ∀ d, d ∈ listed ↔ ∃ version, (IsEntryName version
        ∧ fs.isDirectory ((familyDirectory root family).entry version).text = .ok true)
        ∧ d.displayName = "" ∧ d.moniker.identifier = family
        ∧ d.moniker.version = Moniker.bareVersion version
        ∧ HasProfile fs ((familyDirectory root family).entry version) d.moniker.profile := by
  have htop := isRead_frameworksRoot hroot
  have hparts := parts_frameworksRoot_ne_nil root
  have hread := isRead_familyDirectory hroot hfamily
  have hparts' := parts_familyDirectory_ne_nil root family
  have hbeneath : fs.Beneath (frameworksRoot root) (familyDirectory root family) :=
    FileSystem.Beneath.self.entry_of_isDirectory htop hparts hfamily hdirectory
  obtain ⟨versions, hversions, hmem⟩ :=
    exists_subdirectories htree (hreadable.isLegible htree htop hparts hbeneath)
  have hversion : ∀ version ∈ versions,
      fs.IsLegible (((familyDirectory root family).entry version).entry "Profile") := by
    intro version hversion
    obtain ⟨hname, hdirectory⟩ := (hmem version).mp hversion
    have hbelow := hbeneath.entry_of_isDirectory hread hparts' hname hdirectory
    exact hreadable.isLegible_entry htree htop hparts hbelow isEntryName_profile (by decide)
  obtain ⟨parts, hmapM, hlisted⟩ := exists_gathered fun version hmem ↦
    exists_versionFrameworks htree (hversion version hmem)
  refine ⟨parts.flatten, ?_, fun d ↦ ?_⟩
  · exact bind_eq_ok_iff.mpr ⟨versions, hversions, bind_eq_ok_iff.mpr ⟨parts, hmapM, rfl⟩⟩
  · simp only [hlisted, hmem, Path.name, Path.entry, List.getLast?_append]
    rfl

/-- The list of frameworks says what directories there are for families, versions and profiles. -/
theorem exists_frameworks :
    ∃ listed, frameworks fs root = .ok listed
      ∧ ∀ d, d ∈ listed ↔ d.displayName = "" ∧ IsEntryName d.moniker.identifier
        ∧ ∃ version, IsEntryName version
          ∧ let directory := (familyDirectory root d.moniker.identifier).entry version
            fs.isDirectory directory.text = .ok true
              ∧ d.moniker.version = Moniker.bareVersion version
              ∧ HasProfile fs directory d.moniker.profile := by
  have htop := isRead_frameworksRoot hroot
  have hparts := parts_frameworksRoot_ne_nil root
  obtain ⟨families, hfamilies, hmem⟩ :=
    exists_subdirectories htree (hreadable.isLegible htree htop hparts .self)
  obtain ⟨parts, hmapM, hgathered⟩ := exists_gathered fun family hfamily ↦
    exists_familyFrameworks htree hroot hreadable ((hmem family).mp hfamily).1
      ((hmem family).mp hfamily).2
  refine ⟨parts.flatten, ?_, fun d ↦ ?_⟩
  · exact bind_eq_ok_iff.mpr ⟨families, hfamilies, bind_eq_ok_iff.mpr ⟨parts, hmapM, rfl⟩⟩
  · rw [hgathered]
    constructor
    · rintro ⟨family, hfamily, version, ⟨hname, hdirectory⟩, hdisplay, rfl, hversion, hprofile⟩
      exact ⟨hdisplay, ((hmem _).mp hfamily).1, version, hname, hdirectory, hversion, hprofile⟩
    · rintro ⟨hdisplay, hid, version, hname, hdirectory, hversion, hprofile⟩
      have hfamily := FileSystem.isDirectory_of_entry (isRead_familyDirectory hroot hid)
        (parts_familyDirectory_ne_nil root _) hname hdirectory
      exact ⟨_, (hmem _).mpr ⟨hid, hfamily⟩, version, ⟨hname, hdirectory⟩, hdisplay, rfl, hversion,
        hprofile⟩

end Readable

/-! ## The documented layout -/

/-- Whether every version directory is named by the mark and a version that does not begin with
one. -/
def FollowsLayout (fs : FileSystem) (root : Path) : Prop :=
  ∀ family directory, IsEntryName family → IsEntryName directory →
    fs.isDirectory ((familyDirectory root family).entry directory).text = .ok true →
      ∃ version, directory = "v" ++ version ∧ Moniker.isMarked version = false

theorem isRead_versionDirectory (hroot : root.IsRead) (hm : IsFiled m) :
    (versionDirectory root m).IsRead :=
  (isRead_familyDirectory hroot hm.identifier).entry (isEntryName_mark_append hm.version)

theorem parts_versionDirectory_ne_nil (root : Path) (m : Moniker) :
    (versionDirectory root m).parts ≠ [] := List.concat_ne_nil _ _

/-- A framework has its directory if there is one for the version, and one for the profile in it. -/
theorem isDirectory_frameworkDirectory_iff (hroot : root.IsRead) (hm : IsFiled m) :
    fs.isDirectory (frameworkDirectory root m).text = .ok true ↔
      fs.isDirectory (versionDirectory root m).text = .ok true
        ∧ HasProfile fs (versionDirectory root m) m.profile := by
  have hread := isRead_versionDirectory hroot hm
  have hparts := parts_versionDirectory_ne_nil root m
  rw [HasProfile]
  by_cases hprofile : m.profile = ""
  · simp [frameworkDirectory_of_full hprofile, hprofile]
  · have hname := hm.profile.resolve_left hprofile
    rw [frameworkDirectory_of_profile hprofile]
    constructor
    · intro hdirectory
      have habove := FileSystem.isDirectory_of_entry (hread.entry isEntryName_profile)
        (List.concat_ne_nil _ _) hname hdirectory
      exact ⟨FileSystem.isDirectory_of_entry hread hparts isEntryName_profile habove,
        .inr ⟨hname, hdirectory⟩⟩
    · rintro ⟨-, hempty | ⟨-, hdirectory⟩⟩
      · exact absurd hempty hprofile
      · exact hdirectory

theorem isDirectory_familyDirectory (hroot : root.IsRead) (hm : IsFiled m)
    (h : fs.isDirectory (versionDirectory root m).text = .ok true) :
    fs.isDirectory (familyDirectory root m.identifier).text = .ok true :=
  FileSystem.isDirectory_of_entry (isRead_familyDirectory hroot hm.identifier)
    (parts_familyDirectory_ne_nil root _) (isEntryName_mark_append hm.version) h

/-- What listing finds from the root on includes the directory of every framework that has one. -/
theorem beneath_frameworkDirectory (hroot : root.IsRead) (hm : IsFiled m)
    (hdirectory : fs.isDirectory (frameworkDirectory root m).text = .ok true) :
    fs.Beneath (frameworksRoot root) (frameworkDirectory root m) := by
  obtain ⟨hversion, hprofile⟩ := (isDirectory_frameworkDirectory_iff hroot hm).mp hdirectory
  have hfamily := FileSystem.Beneath.self.entry_of_isDirectory (isRead_frameworksRoot hroot)
    (parts_frameworksRoot_ne_nil root) hm.identifier (isDirectory_familyDirectory hroot hm hversion)
  have hbelow := hfamily.entry_of_isDirectory (isRead_familyDirectory hroot hm.identifier)
    (parts_familyDirectory_ne_nil root _) (isEntryName_mark_append hm.version) hversion
  rcases hprofile with hempty | ⟨hname, hfound⟩
  · rw [frameworkDirectory_of_full hempty]
    exact hbelow
  · rw [frameworkDirectory_of_profile hname.ne_empty]
    have hread := isRead_versionDirectory hroot hm
    have hread' := hread.entry isEntryName_profile
    have habove := FileSystem.isDirectory_of_entry hread' (List.concat_ne_nil _ _) hname hfound
    have hprofiles := hbelow.entry_of_isDirectory hread (parts_versionDirectory_ne_nil root m)
      isEntryName_profile habove
    exact hprofiles.entry_of_isDirectory hread' (List.concat_ne_nil _ _) hname hfound

section Layout

variable (htree : fs.IsTree) (hroot : root.IsRead) (hreadable : fs.IsReadable (frameworksRoot root))
  (hlayout : FollowsLayout fs root)

include htree hroot hreadable hlayout

/-- An installation that follows the layout lists the frameworks that have their directory. -/
theorem exists_frameworks_of_followsLayout :
    ∃ listed, frameworks fs root = .ok listed
      ∧ ∀ d, d ∈ listed ↔ d.displayName = "" ∧ IsFiled d.moniker
        ∧ fs.isDirectory (frameworkDirectory root d.moniker).text = .ok true := by
  obtain ⟨listed, hlisted, hmem⟩ := exists_frameworks htree hroot hreadable
  refine ⟨listed, hlisted, fun d ↦ ?_⟩
  rw [hmem]
  refine and_congr_right fun _ ↦ ?_
  constructor
  · rintro ⟨hid, directory, hname, hdirectory, hversion, hprofile⟩
    obtain ⟨version, rfl, hunmarked⟩ := hlayout _ _ hid hname hdirectory
    rw [bareVersion_mark_append] at hversion
    subst hversion
    have hslash : '/' ∉ d.moniker.version.toList := by
      have hnot := hname.not_mem
      rw [String.toList_append, List.mem_append, not_or] at hnot
      exact hnot.2
    have hfiled : IsFiled d.moniker := ⟨hid, hslash, hunmarked, hprofile.imp_right (·.1)⟩
    exact ⟨hfiled, (isDirectory_frameworkDirectory_iff hroot hfiled).mpr ⟨hdirectory, hprofile⟩⟩
  · rintro ⟨hfiled, hdirectory⟩
    obtain ⟨hversion, hprofile⟩ := (isDirectory_frameworkDirectory_iff hroot hfiled).mp hdirectory
    exact ⟨hfiled.identifier, _, isEntryName_mark_append hfiled.version, hversion,
      (bareVersion_mark_append _).symm, hprofile⟩

end Layout

/-- The lookup of a portable framework finds the libraries of its directory. -/
theorem profileLibraries_frameworksRoot (hroot : root.IsRead) (hm : IsFiled m)
    (hid : m.identifier = Moniker.portable)
    (hdirectory : fs.isDirectory (frameworkDirectory root m).text = .ok true) :
    Project.profileLibraries fs m [(frameworksRoot root).text]
      = fs.libraries (frameworkDirectory root m) := by
  have hversion := ((isDirectory_frameworkDirectory_iff hroot hm).mp hdirectory).1
  have hfamily := isDirectory_familyDirectory hroot hm hversion
  rw [hid] at hfamily
  rw [Project.profileLibraries, Path.parse_text (isRead_frameworksRoot hroot),
    isEntryName_portable.child_eq_entry, ← familyDirectory, hfamily, join_assemblyDirectory hm]
  show (do if ← fs.isDirectory (frameworkDirectory root m).text then _ else _) = _
  rw [hdirectory]
  rfl

/-- **List, installation and profile mean the same directories** in an installation that is readable
and follows the layout. Apart from the full desktop frameworks, what is listed is what is installed;
and the libraries of a listed profile are the files in its directory that are named like one, each
once and in the order of their names. -/
theorem answers_agree {location : String} (htree : fs.IsTree)
    (hreadable : fs.IsReadable (frameworksRoot (.parse location)))
    (hlayout : FollowsLayout fs (.parse location)) :
    ∃ listed, (runtime fs (.parse location)).frameworks = .ok listed
      ∧ (∀ m : Moniker, IsFiled m → m.profile ≠ "" ∨ m.identifier ≠ Moniker.desktop →
        ((m : FrameworkDescriptor) ∈ listed
          ↔ (runtime fs (.parse location)).isInstalled m = .ok true))
      ∧ ∀ d ∈ listed, d.moniker.identifier = Moniker.portable → d.moniker.profile ≠ "" →
        ∀ p : Project, p.runtime = runtime fs (.parse location) →
          p.framework.version = d.moniker.version → p.framework.profile = d.moniker.profile →
          let directory := frameworkDirectory (.parse location) d.moniker
          ∃ (entries : List (String × Node)) (names : List String),
            fs.list directory.text = .ok entries
            ∧ p.portableLibraries fs = .ok (names.map fun name ↦ (directory.entry name).text)
            ∧ names.Pairwise (· < ·)
            ∧ ∀ name, name ∈ names ↔ ".dll".toList <:+ name.toList
              ∧ ∃ node, (name, node) ∈ entries ∧ node.isFile = true := by
  have hroot := Path.isRead_parse location
  obtain ⟨listed, hlisted, hmem⟩ :=
    exists_frameworks_of_followsLayout htree hroot hreadable hlayout
  refine ⟨listed, hlisted, fun m hm hkind ↦ ?_, fun d hd hid hprofile p hruntime hversion hpp ↦ ?_⟩
  · rw [hmem]
    show _ ↔ isInstalled fs (.parse location) m = .ok true
    rw [isInstalled_eq hm hkind]
    exact ⟨fun h ↦ h.2.2, fun h ↦ ⟨rfl, hm, h⟩⟩
  · obtain ⟨-, hm, hdirectory⟩ := (hmem d).mp hd
    have hbeneath := beneath_frameworkDirectory hroot hm hdirectory
    obtain ⟨entries, hentries⟩ := hreadable.listed _ hbeneath hdirectory
    have hlegible := hreadable.isLegible htree (isRead_frameworksRoot hroot)
      (parts_frameworksRoot_ne_nil _) hbeneath
    obtain ⟨names, hnames, hsorted, hmem⟩ := hlegible.exists_libraries htree hentries
    have hmoniker : p.portableMoniker = d.moniker := by
      rw [Project.portableMoniker, hversion, hpp, ← hid]
    have hlibraries : p.portableLibraries fs
        = fs.libraries (frameworkDirectory (.parse location) d.moniker) := by
      rw [Project.portableLibraries, hmoniker, hruntime]
      exact profileLibraries_frameworksRoot hroot hm hid hdirectory
    exact ⟨entries, names, hentries, hlibraries.trans hnames, hsorted, hmem⟩

/-! ### An instance -/

/-- A directory with one entry. -/
def nested (name : String) (node : Node) : Node := .directory [(name, node)] false

theorem isTree_nested {node : Node} (hname : IsEntryName name) (h : node.IsTree) :
    (nested name node).IsTree :=
  .directory (List.nodup_singleton _) (by simpa using hname) (by simpa using h)

/-- An installation at the root that has one portable profile, with two libraries. -/
def profiledFiles : FileSystem where
  root := nested "xbuild-frameworks" <| nested Moniker.portable <| nested "v4.5" <|
    nested "Profile" <| nested "Profile7" <|
      .directory [("B.dll", .file .empty false), ("B.xml", .file .empty false),
        ("A.dll", .file .empty false)] false
  currentDirectory := "/"

theorem isTree_profiledFiles : profiledFiles.IsTree := by
  refine isTree_nested (by decide) <| isTree_nested (by decide) <| isTree_nested (by decide) <|
    isTree_nested (by decide) <| isTree_nested (by decide) <|
      .directory (by decide) (by decide) fun e he ↦ ?_
  simp only [List.mem_cons, List.not_mem_nil, or_false] at he
  rcases he with rfl | rfl | rfl <;> exact .file .empty false

/-- The paths of everything in the installation. -/
def profiledPaths : List Path :=
  [[], [Moniker.portable], [Moniker.portable, "v4.5"], [Moniker.portable, "v4.5", "Profile"],
    [Moniker.portable, "v4.5", "Profile", "Profile7"],
    [Moniker.portable, "v4.5", "Profile", "Profile7", "A.dll"],
    [Moniker.portable, "v4.5", "Profile", "Profile7", "B.dll"],
    [Moniker.portable, "v4.5", "Profile", "Profile7", "B.xml"]].map fun parts ↦
      ⟨.root, "xbuild-frameworks" :: parts⟩

theorem isReadable_profiledFiles :
    profiledFiles.IsReadable (frameworksRoot (.parse "/"))
      ∧ ∀ p, profiledFiles.Beneath (frameworksRoot (.parse "/")) p → p ∈ profiledPaths :=
  FileSystem.IsReadable.of_forall_settled (by decide +kernel) (by decide +kernel)

theorem followsLayout_profiledFiles : FollowsLayout profiledFiles (.parse "/") := by
  intro family directory hfamily hname hdirectory
  have hroot := Path.isRead_parse "/"
  have hread := isRead_familyDirectory hroot hfamily
  have hparts := parts_familyDirectory_ne_nil (.parse "/") family
  have habove := FileSystem.isDirectory_of_entry hread hparts hname hdirectory
  have hbeneath := FileSystem.Beneath.self.entry_of_isDirectory (isRead_frameworksRoot hroot)
    (parts_frameworksRoot_ne_nil _) hfamily habove
  have hmem := isReadable_profiledFiles.2 _
    (hbeneath.entry_of_isDirectory hread hparts hname hdirectory)
  have hversions : ∀ p ∈ profiledPaths, p.parts.length = 3 → p.name = "v4.5" := by decide +kernel
  have hlast : ((familyDirectory (.parse "/") family).entry directory).name = directory := by
    simp [Path.name, Path.entry]
  obtain rfl := hlast.symm.trans (hversions _ hmem rfl)
  exact ⟨"4.5", by decide, by decide⟩

/-- A project that targets the profile of the installation. -/
def profiledProject : Project :=
  { hostedProject [] with
    runtime := runtime profiledFiles (.parse "/")
    framework := ⟨Moniker.desktop, "4.5", "Profile7"⟩ }

/-- The profile is listed under the version that has it, and its libraries come in order. -/
theorem answers_agree_profiled : ∃ listed,
    (runtime profiledFiles (.parse "/")).frameworks = .ok listed
      ∧ ⟨⟨Moniker.portable, "4.5", "Profile7"⟩, ""⟩ ∈ listed
      ∧ ⟨⟨Moniker.portable, "4.0", "Profile7"⟩, ""⟩ ∉ listed
      ∧ ∃ names : List String, names.Pairwise (· < ·)
        ∧ "A.dll" ∈ names ∧ "B.dll" ∈ names ∧ "B.xml" ∉ names
        ∧ profiledProject.portableLibraries profiledFiles = .ok (names.map fun name ↦
          ((frameworkDirectory (.parse "/")
            ⟨Moniker.portable, "4.5", "Profile7"⟩).entry name).text) := by
  have hfiled : ∀ version ∈ ["4.0", "4.5"],
      IsFiled ⟨Moniker.portable, version, "Profile7"⟩ := by
    intro version hversion
    rcases List.mem_pair.mp hversion with rfl | rfl
    · exact ⟨by decide, by decide, by decide, .inr (by decide)⟩
    · exact ⟨by decide, by decide, by decide, .inr (by decide)⟩
  obtain ⟨listed, hlisted, hinstalled, hprofiles⟩ := answers_agree isTree_profiledFiles
    isReadable_profiledFiles.1 followsLayout_profiledFiles
  have hmem := (hinstalled _ (hfiled "4.5" (by simp)) (.inl (by decide))).mpr (by decide +kernel)
  obtain ⟨entries, names, hentries, hnames, hsorted, hlibrary⟩ :=
    hprofiles _ hmem rfl (by decide) profiledProject rfl rfl rfl
  have hview : (profiledFiles.list (frameworkDirectory (.parse "/")
      ⟨Moniker.portable, "4.5", "Profile7"⟩).text).toOption.map
        (fun entries ↦ (entries.filter (·.2.isFile)).map (·.1))
      = some ["B.dll", "B.xml", "A.dll"] := by decide +kernel
  rw [hentries] at hview
  have hfile : ∀ name ∈ ["B.dll", "B.xml", "A.dll"], ∃ node, (name, node) ∈ entries
      ∧ node.isFile = true := by
    intro name hname
    rw [← Option.some.inj hview] at hname
    obtain ⟨e, he, rfl⟩ := List.mem_map.mp hname
    exact ⟨e.2, List.mem_filter.mp he⟩
  refine ⟨listed, hlisted, hmem, fun habsent ↦ ?_, names, hsorted, ?_, ?_, ?_, hnames⟩
  · have hfound := (hinstalled _ (hfiled "4.0" (by simp)) (.inl (by decide))).mp habsent
    exact absurd hfound (by decide +kernel)
  · exact (hlibrary _).mpr ⟨by decide, hfile _ (by simp)⟩
  · exact (hlibrary _).mpr ⟨by decide, hfile _ (by simp)⟩
  · exact fun hxml ↦ absurd ((hlibrary _).mp hxml).1 (by decide)

end MonoInstall

end FSharpFlags
