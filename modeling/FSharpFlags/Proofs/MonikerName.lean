import FSharpFlags.Proofs.NameLanguage

/-!
# Monikers and the names that spell them

A moniker is written as a framework name with the mark `v` before its version and without a profile
when it has none. Reading is more generous than writing: it takes either mark or none, keys in any
case, blanks around everything and a profile without a value. What reading gives is therefore in a
normal form, and exactly the monikers in that form come back from the names that they are written
as: nothing that is left of them may be taken for a mark of the grammar or for a blank at the edge
of a piece, and the version is made of numerals.
-/

namespace FSharpFlags

namespace FrameworkName

/-! ## Versions without a mark -/

/-- Whether a text is numerals with dots between them. -/
def IsDotted (cs : List Char) : Prop :=
  ∃ numerals : List (List Char), numerals ≠ []
    ∧ (∀ numeral ∈ numerals, numeral ≠ [] ∧ ∀ d ∈ numeral, d.isDigit = true)
    ∧ cs = ['.'].intercalate numerals

theorem isDotted_dropMark_iff {cs : List Char} : IsDotted (dropMark cs) ↔ IsVersionText cs :=
  Iff.rfl

theorem IsDotted.eq_or_isDigit {cs : List Char} (h : IsDotted cs) {c : Char} (hc : c ∈ cs) :
    c = '.' ∨ c.isDigit = true := by
  obtain ⟨numerals, -, hdigits, rfl⟩ := h
  obtain hdot | ⟨numeral, hnumeral, hmem⟩ := eq_or_mem_of_mem_intercalate hc
  · exact .inl hdot
  · exact .inr ((hdigits numeral hnumeral).2 c hmem)

/-- A character that is no digit and no dot stands in no version. -/
theorem IsDotted.not_mem {cs : List Char} (h : IsDotted cs) {c : Char} (hdot : c ≠ '.')
    (hdigit : c.isDigit = false) : c ∉ cs := by
  intro hc
  rcases h.eq_or_isDigit hc with heq | hdig
  · exact hdot heq
  · rw [hdigit] at hdig
    cases hdig

theorem IsDotted.strip_marked {cs : List Char} (h : IsDotted cs) :
    Text.strip ('v' :: cs) = 'v' :: cs := by
  refine Text.strip_of_forall (List.forall_mem_cons.mpr ⟨by decide, fun c hc ↦ ?_⟩)
  rcases h.eq_or_isDigit hc with rfl | hdigit
  · decide
  · exact Text.isBlank_of_isDigit hdigit

theorem IsDotted.isVersion_marked {cs : List Char} (h : IsDotted cs) :
    isVersion ('v' :: cs) = true := isVersion_iff.mpr h

end FrameworkName

/-! ## Monikers as they are written -/

namespace Moniker

open FrameworkName

/-- Whether the parts of a moniker are in the form in which reading a name gives them. -/
structure IsNameable (m : Moniker) : Prop where
  /-- There is an identifier. -/
  identifier_ne_nil : m.identifier.toList ≠ []
  /-- The identifier has no blanks around it. -/
  identifier_stripped : Text.strip m.identifier.toList = m.identifier.toList
  /-- The identifier has no comma and no equals sign. -/
  identifier_plain : FrameworkName.IsPlain m.identifier.toList
  /-- The version is numerals with dots between them. -/
  version_dotted : IsDotted m.version.toList
  /-- The profile, if there is one, has no blanks around it. -/
  profile_stripped : Text.strip m.profile.toList = m.profile.toList
  /-- The profile has no comma and no equals sign. -/
  profile_plain : FrameworkName.IsPlain m.profile.toList

/-- The key of the version as it is written. -/
def versionKey : List Char := "Version".toList

/-- The key of the profile as it is written. -/
def profileKey : List Char := "Profile".toList

/-- The components of the name that a moniker is written as. -/
def components (m : Moniker) : List Component :=
  (versionKey, 'v' :: m.version.toList)
    :: if m.profile.toList = [] then [] else [(profileKey, m.profile.toList)]

variable {m : Moniker}

theorem markedVersion_of_isDotted {version : String} (h : IsDotted version.toList) :
    (markedVersion version).toList = 'v' :: version.toList := by
  have hmark : isMarked version = false := by
    rw [isMarked, decide_eq_false_iff_not]
    intro hhead
    exact h.not_mem (by decide) (by decide) (List.mem_of_mem_head? hhead)
  rw [markedVersion, hmark, if_neg Bool.false_ne_true, String.toList_append]
  rfl

theorem toList_text (h : IsDotted m.version.toList) :
    m.text.toList = m.identifier.toList ++ writtenAll m.components := by
  have hversion : ",Version=".toList = ',' :: versionKey ++ ['='] := by decide
  have hkey : ",Profile=".toList = ',' :: profileKey ++ ['='] := by decide
  have hfull : (m.identifier ++ ",Version=" ++ markedVersion m.version).toList
      = m.identifier.toList ++ ',' :: written (versionKey, 'v' :: m.version.toList) := by
    rw [String.toList_append, String.toList_append, markedVersion_of_isDotted h, hversion, written]
    simp only [List.append_assoc, List.cons_append, List.nil_append]
  rw [text, components, isPortable]
  by_cases hprofile : m.profile = ""
  · rw [hprofile, if_pos String.toList_empty, writtenAll_cons]
    exact hfull.trans (by rw [writtenAll, List.flatMap_nil, List.append_nil])
  · have hne : m.profile.toList ≠ [] := mt String.toList_eq_nil_iff.mp hprofile
    have hempty : m.profile.isEmpty = false := by
      rwa [← Bool.not_eq_true, String.isEmpty_iff]
    rw [if_neg hne, hempty, Bool.not_false, if_pos rfl, writtenAll_cons, writtenAll_cons]
    rw [String.toList_append, String.toList_append, hfull, hkey, written, written, writtenAll]
    simp only [List.flatMap_nil, List.append_assoc, List.cons_append, List.nil_append,
      List.append_nil]

theorem isWritable_of_mem_components (h : m.IsNameable) {component : Component}
    (hcomponent : component ∈ m.components) : IsWritable component := by
  have hversion : FrameworkName.IsPlain ('v' :: m.version.toList) := by
    have hmark : ∀ c, c ≠ 'v' → c ≠ '.' → c.isDigit = false → c ∉ 'v' :: m.version.toList :=
      fun c hv hdot hdigit ↦
        List.not_mem_cons_of_ne_of_not_mem hv (h.version_dotted.not_mem hdot hdigit)
    exact ⟨hmark ',' (by decide) (by decide) (by decide),
      hmark '=' (by decide) (by decide) (by decide)⟩
  have hkeys : ∀ key ∈ [versionKey, profileKey], key ≠ [] ∧ ',' ∉ key ∧ '=' ∉ key := by decide
  rw [components, List.mem_cons] at hcomponent
  rcases hcomponent with rfl | hprofile
  · obtain ⟨hne, hplain⟩ := hkeys versionKey List.mem_cons_self
    exact ⟨hne, hplain, hversion⟩
  · split at hprofile
    · cases hprofile
    · obtain rfl := List.mem_singleton.mp hprofile
      obtain ⟨hne, hplain⟩ := hkeys profileKey (List.mem_cons_of_mem _ List.mem_cons_self)
      exact ⟨hne, hplain, h.profile_plain⟩

theorem keyOf_versionKey (value : List Char) : keyOf (versionKey, value) = "version" := by
  show String.ofList (Text.lowerCase (Text.strip versionKey)) = "version"
  decide

theorem keyOf_profileKey (value : List Char) : keyOf (profileKey, value) = "profile" := by
  show String.ofList (Text.lowerCase (Text.strip profileKey)) = "profile"
  decide

theorem map_keyOf_components_sublist (m : Moniker) :
    (m.components.map keyOf).Sublist knownKeys := by
  rw [components, List.map_cons, keyOf_versionKey]
  by_cases hprofile : m.profile.toList = []
  · rw [if_pos hprofile]
    exact .cons_cons _ (List.nil_sublist _)
  · rw [if_neg hprofile, List.map_cons, keyOf_profileKey]
    exact .refl _

theorem admits_components (m : Moniker) : Fields.Admits {} m.components := by
  have hkeys := m.map_keyOf_components_sublist
  exact Fields.admits_empty_iff.mpr
    ⟨fun component hcomponent ↦ hkeys.subset (List.mem_map_of_mem hcomponent),
      hkeys.nodup (by decide)⟩

theorem valueAt_components_version (m : Moniker) :
    valueAt m.components "version" = some (Text.strip ('v' :: m.version.toList)) := by
  have hversion : decide (keyOf (versionKey, 'v' :: m.version.toList) = "version") = true :=
    decide_eq_true (keyOf_versionKey _)
  rw [valueAt, components, List.find?_cons, hversion]
  rfl

theorem valueAt_components_profile (m : Moniker) :
    (valueAt m.components "profile").getD [] = Text.strip m.profile.toList := by
  have hversion : decide (keyOf (versionKey, 'v' :: m.version.toList) = "profile") = false := by
    rw [keyOf_versionKey]
    decide
  rw [valueAt, components, List.find?_cons, hversion]
  by_cases hprofile : m.profile.toList = []
  · rw [if_pos hprofile, hprofile]
    rfl
  · have hkey : decide (keyOf (profileKey, m.profile.toList) = "profile") = true :=
      decide_eq_true (keyOf_profileKey _)
    rw [if_neg hprofile, List.find?_cons, hkey]
    rfl

/-- A moniker comes back from the name that it is written as. -/
theorem parse_text (h : m.IsNameable) :
    parse m.text = .ok ⟨m.identifier, String.ofList ('v' :: m.version.toList), m.profile⟩ := by
  have hsentence : sentence? (tokens m.text.toList) = some (m.identifier.toList, m.components) :=
    sentence?_tokens_eq_some_iff.mpr ⟨toList_text h.version_dotted, h.identifier_ne_nil,
      h.identifier_plain, fun component ↦ isWritable_of_mem_components h⟩
  obtain ⟨fields, hfields, hvalues⟩ := Fields.exists_foldlM_add_eq_ok m.admits_components
  have hversion : fields.version = some ('v' :: m.version.toList) := by
    rw [show fields.version = valueAt m.components "version" from hvalues "version" (by decide),
      valueAt_components_version, h.version_dotted.strip_marked]
  have hprofile : fields.profile.getD [] = m.profile.toList := by
    rw [show fields.profile = valueAt m.components "profile" from hvalues "profile" (by decide),
      valueAt_components_profile, h.profile_stripped]
  show FrameworkName.read m.text.toList = _
  rw [FrameworkName.read, hsentence]
  dsimp only
  rw [h.identifier_stripped, List.isEmpty_eq_false_iff.mpr h.identifier_ne_nil,
    if_neg Bool.false_ne_true, hfields]
  refine (if_pos ?_).trans ?_
  · rw [hversion]
    exact h.version_dotted.isVersion_marked
  · rw [hversion, hprofile, Option.getD_some, String.ofList_toList, String.ofList_toList]
    rfl

end Moniker

namespace FrameworkName

/-! ## Names that have been read -/

theorem isPlain_strip {cs : List Char} (h : IsPlain cs) : IsPlain (Text.strip cs) :=
  ⟨mt Text.mem_of_mem_strip h.1, mt Text.mem_of_mem_strip h.2⟩

/-- The value of a key is stripped and plain, also where there is none. -/
theorem valueAt_normal {components : List Component}
    (hwritable : ∀ component ∈ components, IsWritable component) (key : String) :
    Text.strip ((valueAt components key).getD []) = (valueAt components key).getD []
      ∧ IsPlain ((valueAt components key).getD []) := by
  rw [valueAt]
  cases hfind : components.find? (keyOf · = key) with
  | none => exact ⟨rfl, List.not_mem_nil, List.not_mem_nil⟩
  | some found =>
    have hfound : IsWritable found := hwritable found (List.mem_of_find?_eq_some hfind)
    exact ⟨Text.strip_strip _, isPlain_strip hfound.2.2⟩

theorem isNameable_of_parse {text : String} {name : FrameworkName} (h : parse text = .ok name) :
    name.toMoniker.IsNameable := by
  have hconforms : Conforms text.toList := by
    by_contra hno
    obtain ⟨fault, hfault⟩ := exists_read_eq_error hno
    rw [parse, hfault] at h
    cases h
  obtain rfl : name = spelled text.toList := by
    rw [parse, read_of_conforms hconforms] at h
    exact (Except.ok.inj h).symm
  obtain ⟨-, -, hplain, hwritable⟩ :=
    sentence?_tokens_eq_some_iff.mp (sentence?_tokens_of_hasShape hconforms.toHasShape)
  have hversion : isVersion ((valueAt (componentsOf text.toList) "version").getD []) = true :=
    (isVersion_valueAt_iff hconforms.unrepeated).mpr hconforms.version
  have hprofile := valueAt_normal hwritable "profile"
  refine ⟨?_, ?_, ?_, ?_, ?_, ?_⟩ <;> simp only [toMoniker, spelled, String.toList_ofList]
  · exact List.isEmpty_eq_false_iff.mp
      (isEmpty_strip_eq_false_iff.mpr hconforms.identifier_nonblank)
  · exact Text.strip_strip _
  · exact isPlain_strip hplain
  · exact isDotted_dropMark_iff.mpr (isVersion_iff.mp hversion)
  · exact hprofile.1
  · exact hprofile.2

/-- **Monikers and the names that spell them** agree: the moniker of a name that was read comes
back from the name that it is written as, and these are exactly the monikers in normal form. -/
theorem toMoniker_parse_text :
    (∀ text name, parse text = .ok name →
        ∃ name', parse name.toMoniker.text = .ok name' ∧ name'.toMoniker = name.toMoniker)
      ∧ ∀ m : Moniker,
        (∃ name, parse m.text = .ok name ∧ name.toMoniker = m) ↔ m.IsNameable := by
  have hback : ∀ {m : Moniker}, m.IsNameable →
      ∃ name, parse m.text = .ok name ∧ name.toMoniker = m := by
    intro m hm
    refine ⟨_, m.parse_text hm, ?_⟩
    simp [toMoniker, dropMark]
  refine ⟨fun text name hname ↦ hback (isNameable_of_parse hname), fun m ↦ ⟨?_, hback⟩⟩
  rintro ⟨name, hname, rfl⟩
  exact isNameable_of_parse hname

/-- A name is read with its blanks, its mark and its empty profile and written without them. -/
theorem toMoniker_parse_text_spaced :
    parse " .NETFramework , version = V4.0 , PROFILE = " = .ok ⟨".NETFramework", "V4.0", ""⟩
      ∧ (∃ name, parse ".NETFramework,Version=v4.0" = .ok name
          ∧ name.toMoniker = ⟨".NETFramework", "4.0", ""⟩)
      ∧ Moniker.IsNameable ⟨".NETPortable", "4.5", "Profile7"⟩ := by
  have hspaced : parse " .NETFramework , version = V4.0 , PROFILE = "
      = .ok ⟨".NETFramework", "V4.0", ""⟩ := by decide +kernel
  have hmoniker : toMoniker ⟨".NETFramework", "V4.0", ""⟩ = ⟨".NETFramework", "4.0", ""⟩ := by
    decide +kernel
  have htext : Moniker.text ⟨".NETFramework", "4.0", ""⟩ = ".NETFramework,Version=v4.0" := by
    decide +kernel
  have hagain := toMoniker_parse_text.1 _ _ hspaced
  rw [hmoniker, htext] at hagain
  have hportable : parse (Moniker.text ⟨".NETPortable", "4.5", "Profile7"⟩)
      = .ok ⟨".NETPortable", "v4.5", "Profile7"⟩ := by decide +kernel
  exact ⟨hspaced, hagain, (toMoniker_parse_text.2 _).mp ⟨_, hportable, by decide +kernel⟩⟩

end FrameworkName

end FSharpFlags
