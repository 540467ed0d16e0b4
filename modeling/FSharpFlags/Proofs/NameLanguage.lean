import FSharpFlags.Proofs.NameSentence
import FSharpFlags.Proofs.Stripping
import Mathlib.Data.List.Nodup

/-!
# The language of framework names

Reading a framework name takes three steps, and each of them refuses some texts: those that are no
sentence, those whose components cannot be added one after the other, and those without a version.
Put together they accept one language. The pieces of a text between its commas are an identifier
that is not blank and components whose keys are `version` and `profile`, in any case and with
blanks around them, each at most once; and the version has to be there.

The check of the components is a fold whose state says which keys have been seen. It goes through
exactly when the keys are known and none comes twice, and then every key has the value of the only
component that mentions it.
-/

namespace FSharpFlags

namespace FrameworkName

/-! ## Components -/

/-- The key of a component as it is compared: without blanks around it and in lower case. -/
def keyOf (component : Component) : String :=
  String.ofList (Text.lowerCase (Text.strip component.1))

/-- The value of a component without blanks around it. -/
def valueOf (component : Component) : List Char := Text.strip component.2

/-- The keys that a component may have. -/
def knownKeys : List String := ["version", "profile"]

/-- The value that the first component of a key gives it. -/
def valueAt (components : List Component) (key : String) : Option (List Char) :=
  (components.find? (keyOf · = key)).map valueOf

namespace Fields

/-- The value of a key, if it has been seen. -/
def get (fields : Fields) (key : String) : Option (List Char) :=
  if key = "version" then fields.version
  else if key = "profile" then fields.profile
  else none

theorem get_empty (key : String) : get {} key = none := by
  unfold get
  split
  · rfl
  · split <;> rfl

variable {fields : Fields} {component : Component}

theorem add_eq (fields : Fields) (component : Component) :
    fields.add component
      = if keyOf component = "version" then
          if fields.version.isSome then .error (.repeatedComponent (keyOf component))
          else .ok { fields with version := some (valueOf component) }
        else if keyOf component = "profile" then
          if fields.profile.isSome then .error (.repeatedComponent (keyOf component))
          else .ok { fields with profile := some (valueOf component) }
        else .error (.unknownComponent (keyOf component)) := rfl

/-- A known key that has not been seen is given its value. -/
theorem exists_add_eq_ok (hknown : keyOf component ∈ knownKeys)
    (hnew : fields.get (keyOf component) = none) :
    ∃ fields', fields.add component = .ok fields' ∧ ∀ key ∈ knownKeys,
      fields'.get key = if keyOf component = key then some (valueOf component)
        else fields.get key := by
  have hcases : keyOf component = "version" ∨ keyOf component = "profile" := by
    simpa [knownKeys] using hknown
  rw [add_eq]
  rcases hcases with hkey | hkey
  · rw [hkey, get, if_pos rfl] at hnew
    rw [if_pos hkey, hnew, hkey]
    exact ⟨_, rfl, by simp [knownKeys, get]⟩
  · rw [hkey, get, if_neg (by decide), if_pos rfl] at hnew
    rw [hkey, if_neg (by decide), if_pos rfl, hnew]
    exact ⟨_, rfl, by simp [knownKeys, get]⟩

/-- A key that is not known or that has been seen is refused. -/
theorem exists_add_eq_error
    (h : ¬(keyOf component ∈ knownKeys ∧ fields.get (keyOf component) = none)) :
    ∃ fault, fields.add component = .error fault := by
  rw [add_eq]
  by_cases hversion : keyOf component = "version"
  · rw [if_pos hversion]
    rw [hversion, get, if_pos rfl] at h
    have hseen : fields.version.isSome = true :=
      Option.isSome_iff_ne_none.mpr fun hnone ↦ h ⟨by simp [knownKeys], hnone⟩
    exact ⟨_, if_pos hseen⟩
  · rw [if_neg hversion]
    by_cases hprofile : keyOf component = "profile"
    · rw [if_pos hprofile]
      rw [hprofile, get, if_neg (by decide), if_pos rfl] at h
      have hseen : fields.profile.isSome = true :=
        Option.isSome_iff_ne_none.mpr fun hnone ↦ h ⟨by simp [knownKeys], hnone⟩
      exact ⟨_, if_pos hseen⟩
    · exact ⟨_, if_neg hprofile⟩

/-- Whether components can be added one after the other. -/
def Admits (fields : Fields) (components : List Component) : Prop :=
  (∀ component ∈ components,
      keyOf component ∈ knownKeys ∧ fields.get (keyOf component) = none)
    ∧ (components.map keyOf).Nodup

theorem admits_empty_iff {components : List Component} :
    Admits {} components ↔ (∀ component ∈ components, keyOf component ∈ knownKeys)
      ∧ (components.map keyOf).Nodup := by
  simp only [Admits, get_empty, and_true]

/-- Adding a component leaves its key to no other one. -/
theorem admits_cons_iff {fields' : Fields} {rest : List Component}
    (hfields : ∀ key ∈ knownKeys, fields'.get key
      = if keyOf component = key then some (valueOf component) else fields.get key) :
    fields.Admits (component :: rest)
      ↔ (keyOf component ∈ knownKeys ∧ fields.get (keyOf component) = none)
        ∧ fields'.Admits rest := by
  -- What is new afterwards was new before and does not have the key that was added.
  have hrest : ∀ c, (keyOf c ∈ knownKeys ∧ fields'.get (keyOf c) = none)
      ↔ (keyOf c ∈ knownKeys ∧ fields.get (keyOf c) = none) ∧ keyOf component ≠ keyOf c := by
    intro c
    constructor
    · rintro ⟨hknown, hnew⟩
      rw [hfields _ hknown] at hnew
      split at hnew
      · cases hnew
      · next hne => exact ⟨⟨hknown, hnew⟩, hne⟩
    · rintro ⟨⟨hknown, hnew⟩, hne⟩
      rw [hfields _ hknown, if_neg hne]
      exact ⟨hknown, hnew⟩
  unfold Admits
  rw [List.forall_mem_cons, List.map_cons, List.nodup_cons, List.mem_map]
  constructor
  · rintro ⟨⟨hfirst, hall⟩, hfresh, hnodup⟩
    refine ⟨hfirst, fun c hc ↦ (hrest c).mpr ⟨hall c hc, fun heq ↦ ?_⟩, hnodup⟩
    exact hfresh ⟨c, hc, heq.symm⟩
  · rintro ⟨hfirst, hall, hnodup⟩
    refine ⟨⟨hfirst, fun c hc ↦ ((hrest c).mp (hall c hc)).1⟩, ?_, hnodup⟩
    rintro ⟨c, hc, heq⟩
    exact ((hrest c).mp (hall c hc)).2 heq.symm

/-- **Components** that are admitted are all added, each key with its value. -/
theorem exists_foldlM_add_eq_ok {components : List Component} (h : fields.Admits components) :
    ∃ fields', components.foldlM add fields = .ok fields' ∧ ∀ key ∈ knownKeys,
      fields'.get key = (fields.get key).or (valueAt components key) := by
  induction components generalizing fields with
  | nil => exact ⟨fields, rfl, fun key _ ↦ (Option.or_none).symm⟩
  | cons component rest ih =>
    obtain ⟨hknown, hnew⟩ := h.1 component List.mem_cons_self
    obtain ⟨next, hadd, hnext⟩ := exists_add_eq_ok hknown hnew
    obtain ⟨last, hlast, hvalues⟩ := ih ((admits_cons_iff hnext).mp h).2
    refine ⟨last, by rw [List.foldlM_cons, hadd]; exact hlast, fun key hkey ↦ ?_⟩
    rw [hvalues key hkey, hnext key hkey, valueAt, valueAt, List.find?_cons]
    by_cases heq : keyOf component = key
    · subst heq
      simp [hnew]
    · simp [heq]

theorem exists_foldlM_add_eq_error {components : List Component}
    (h : ¬fields.Admits components) : ∃ fault, components.foldlM add fields = .error fault := by
  induction components generalizing fields with
  | nil => exact absurd ⟨by simp, .nil⟩ h
  | cons component rest ih =>
    rw [List.foldlM_cons]
    by_cases hfirst : keyOf component ∈ knownKeys ∧ fields.get (keyOf component) = none
    · obtain ⟨next, hadd, hnext⟩ := exists_add_eq_ok hfirst.1 hfirst.2
      rw [hadd]
      exact ih fun hrest ↦ h ((admits_cons_iff hnext).mpr ⟨hfirst, hrest⟩)
    · obtain ⟨fault, hadd⟩ := exists_add_eq_error hfirst
      exact ⟨fault, by rw [hadd]; rfl⟩

end Fields

/-! ## Versions -/

/-- Whether a text is a version: numerals with dots between them, after an optional mark. -/
def IsVersionText (cs : List Char) : Prop :=
  ∃ numerals : List (List Char), numerals ≠ []
    ∧ (∀ numeral ∈ numerals, numeral ≠ [] ∧ ∀ d ∈ numeral, d.isDigit = true)
    ∧ dropMark cs = ['.'].intercalate numerals

theorem isVersion_iff {cs : List Char} : isVersion cs = true ↔ IsVersionText cs := by
  have hnumeral : ∀ w, Numeral.isNumeral w = true ↔ w ≠ [] ∧ ∀ d ∈ w, d.isDigit = true := by
    intro w
    simp [Numeral.isNumeral]
  rw [isVersion, List.all_eq_true]
  constructor
  · intro h
    exact ⟨(dropMark cs).splitOn '.', List.splitOn_ne_nil _ _,
      fun w hw ↦ (hnumeral w).mp (h w hw), (List.intercalate_splitOn '.').symm⟩
  · rintro ⟨numerals, hne, hdigits, hdrop⟩
    have hdots : ∀ w ∈ numerals, '.' ∉ w := by
      intro w hw hdot
      have hdigit := (hdigits w hw).2 '.' hdot
      revert hdigit
      decide
    rw [hdrop, List.splitOn_intercalate '.' hdots hne]
    exact fun w hw ↦ (hnumeral w).mpr (hdigits w hw)

/-! ## The language -/

/-- The components of a text, by its pieces. -/
def componentsOf (cs : List Char) : List Component := (laterPieces cs).map sides

/-- Whether a text is the name of a framework. -/
structure Conforms (cs : List Char) : Prop extends HasShape cs where
  /-- The identifier is not blank. -/
  identifier_nonblank : ∃ c ∈ firstPiece cs, Text.isBlank c = false
  /-- Every key is `version` or `profile`. -/
  known : ∀ component ∈ componentsOf cs, keyOf component ∈ knownKeys
  /-- No key comes twice. -/
  unrepeated : ((componentsOf cs).map keyOf).Nodup
  /-- There is a version, and it is one. -/
  version : ∃ component ∈ componentsOf cs, keyOf component = "version"
    ∧ IsVersionText (valueOf component)

/-- The name that a text spells. -/
def spelled (cs : List Char) : FrameworkName where
  identifier := String.ofList (Text.strip (firstPiece cs))
  version := String.ofList ((valueAt (componentsOf cs) "version").getD [])
  profile := String.ofList ((valueAt (componentsOf cs) "profile").getD [])

/-- Of components with different keys, the one that is found for a key is the only one. -/
theorem isVersion_valueAt_iff {components : List Component}
    (hnodup : (components.map keyOf).Nodup) :
    isVersion ((valueAt components "version").getD []) = true
      ↔ ∃ component ∈ components, keyOf component = "version"
        ∧ IsVersionText (valueOf component) := by
  rw [valueAt]
  cases hfind : components.find? (keyOf · = "version") with
  | none =>
    have hnone : ∀ component ∈ components, keyOf component ≠ "version" := by
      simpa using List.find?_eq_none.mp hfind
    refine iff_of_false (by decide) ?_
    rintro ⟨component, hcomponent, hkey, -⟩
    exact hnone component hcomponent hkey
  | some found =>
    have hkey : keyOf found = "version" := by simpa using List.find?_some hfind
    have hmem : found ∈ components := List.mem_of_find?_eq_some hfind
    rw [Option.map_some, Option.getD_some, isVersion_iff]
    constructor
    · intro h
      exact ⟨found, hmem, hkey, h⟩
    · rintro ⟨component, hcomponent, hsame, h⟩
      rwa [List.inj_on_of_nodup_map hnodup hmem hcomponent (hkey.trans hsame.symm)]

theorem isEmpty_strip_eq_false_iff {cs : List Char} :
    (Text.strip cs).isEmpty = false ↔ ∃ c ∈ cs, Text.isBlank c = false := by
  rw [List.isEmpty_eq_false_iff, Ne, Text.strip_eq_nil_iff]
  simp

/-- What is left to do for a text whose pieces have the shape of a name. -/
theorem read_of_hasShape {cs : List Char} (h : HasShape cs) :
    read cs = if (Text.strip (firstPiece cs)).isEmpty then .error .emptyIdentifier
      else (componentsOf cs).foldlM Fields.add {} >>= fun fields ↦
        if isVersion (fields.version.getD []) then
          .ok {
            identifier := String.ofList (Text.strip (firstPiece cs))
            version := String.ofList (fields.version.getD [])
            profile := String.ofList (fields.profile.getD []) }
        else .error .invalidVersion := by
  rw [read, sentence?_tokens_of_hasShape h]
  rfl

theorem read_of_conforms {cs : List Char} (h : Conforms cs) : read cs = .ok (spelled cs) := by
  have hblank := isEmpty_strip_eq_false_iff.mpr h.identifier_nonblank
  have hadmits : Fields.Admits {} (componentsOf cs) :=
    Fields.admits_empty_iff.mpr ⟨h.known, h.unrepeated⟩
  obtain ⟨fields, hfields, hvalues⟩ := Fields.exists_foldlM_add_eq_ok hadmits
  have hversion : fields.version = valueAt (componentsOf cs) "version" :=
    hvalues "version" (by decide)
  have hprofile : fields.profile = valueAt (componentsOf cs) "profile" :=
    hvalues "profile" (by decide)
  have hisVersion := (isVersion_valueAt_iff h.unrepeated).mpr h.version
  rw [← hversion] at hisVersion
  rw [read_of_hasShape h.toHasShape, hblank, if_neg Bool.false_ne_true, hfields]
  refine (if_pos hisVersion).trans ?_
  rw [hversion, hprofile, spelled]

theorem exists_read_eq_error {cs : List Char} (h : ¬Conforms cs) :
    ∃ fault, read cs = .error fault := by
  by_cases hshape : HasShape cs
  · rw [read_of_hasShape hshape]
    cases hblank : (Text.strip (firstPiece cs)).isEmpty with
    | true => exact ⟨_, if_pos rfl⟩
    | false =>
      rw [if_neg Bool.false_ne_true]
      by_cases hadmits : Fields.Admits {} (componentsOf cs)
      · obtain ⟨hknown, hunrepeated⟩ := Fields.admits_empty_iff.mp hadmits
        obtain ⟨fields, hfields, hvalues⟩ := Fields.exists_foldlM_add_eq_ok hadmits
        have hversion : fields.version = valueAt (componentsOf cs) "version" :=
          hvalues "version" (by decide)
        -- All other conditions hold, so it is the version that is not one.
        have hinvalid : ¬isVersion (fields.version.getD []) = true := by
          rw [hversion, isVersion_valueAt_iff hunrepeated]
          intro hvalid
          exact h ⟨hshape, isEmpty_strip_eq_false_iff.mp hblank, hknown, hunrepeated, hvalid⟩
        rw [hfields]
        exact ⟨_, if_neg hinvalid⟩
      · obtain ⟨fault, hfault⟩ := Fields.exists_foldlM_add_eq_error hadmits
        rw [hfault]
        exact ⟨fault, rfl⟩
  · rw [read, sentence?_tokens_of_not_hasShape hshape]
    exact ⟨_, rfl⟩

/-- **Reading a framework name** succeeds on the texts of the language and on no other, and gives
what the pieces of the text spell. -/
theorem parse_eq_ok_iff (text : String) :
    (∀ name, parse text = .ok name ↔ Conforms text.toList ∧ name = spelled text.toList)
      ∧ ((∃ fault, parse text = .error fault) ↔ ¬Conforms text.toList) := by
  by_cases h : Conforms text.toList
  · have hread : parse text = .ok (spelled text.toList) := read_of_conforms h
    refine ⟨fun name ↦ ?_, iff_of_false ?_ (not_not_intro h)⟩
    · rw [hread]
      exact ⟨fun heq ↦ ⟨h, (Except.ok.inj heq).symm⟩, fun hname ↦ congrArg Except.ok hname.2.symm⟩
    · rw [hread]
      rintro ⟨fault, hfault⟩
      cases hfault
  · obtain ⟨fault, hread⟩ : ∃ fault, parse text = .error fault := exists_read_eq_error h
    refine ⟨fun name ↦ iff_of_false ?_ fun hname ↦ h hname.1, iff_of_true ⟨fault, hread⟩ h⟩
    rw [hread]
    intro hname
    cases hname

/-- Blanks and case do not matter and a profile may be left empty, but every comma needs its
component. -/
theorem parse_eq_ok_iff_spaced :
    Conforms " .NETFramework , version = v4.0 , PROFILE = ".toList
      ∧ ¬Conforms ".NETFramework,,Version=v4.0".toList := by
  have hspaced : parse " .NETFramework , version = v4.0 , PROFILE = "
      = .ok ⟨".NETFramework", "v4.0", ""⟩ := by decide +kernel
  have hcommas : parse ".NETFramework,,Version=v4.0" = .error .malformed := by decide +kernel
  exact ⟨(((parse_eq_ok_iff _).1 _).mp hspaced).1, (parse_eq_ok_iff _).2.mp ⟨_, hcommas⟩⟩

end FrameworkName

end FSharpFlags
