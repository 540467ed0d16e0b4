import FSharpFlags.Text.LowerCase

/-!
# Lower case and plain letters

On the characters of ASCII the lower-case mapping does what one expects of it. It also sends one
other character there, the Kelvin sign, which becomes a `k`. A text without a `k` whose characters
are from ASCII is therefore the lower case of those texts alone that differ from it in the case of
their ASCII letters.

The argument looks at the table in two ways. Below a bound every entry is tried. Above it, the
entries are asked for where they lead: not below the bound, but for one.
-/

namespace FSharpFlags

/-- Whether a character is the lower case of no character but of its own ASCII letter. -/
def IsPlainChar (c : Char) : Prop := c.toNat < 0x80 ∧ c ≠ 'k'

instance (c : Char) : Decidable (IsPlainChar c) := inferInstanceAs (Decidable (_ ∧ _))

theorem toLower_of_le {c : Char} (h : 0x80 ≤ c.toNat) : c.toLower = c := by
  refine dif_neg fun hletter ↦ ?_
  have hle : c.toNat ≤ 'Z'.toNat := hletter.2
  have hbound : 'Z'.toNat < 0x80 := by decide
  omega

namespace Text

variable {c : Char} {target : List Char}

theorem lowerCasing_map_of_lt (h : c.toNat < 0x80) : lowerCasing.map c = [c.toLower] := by
  have hall : ∀ code < 0x80, lowerCasing.map (Char.ofNat code) = [(Char.ofNat code).toLower] := by
    decide +kernel
  rw [← Char.ofNat_toNat c]
  exact hall c.toNat h

theorem not_isPlainChar_ofNat {code : Nat} (hle : 0x80 ≤ code) (hvalid : code.isValidChar) :
    ¬IsPlainChar (Char.ofNat code) := by
  have hcode : (Char.ofNat code).toNat = code := by
    rw [Char.ofNat, dif_pos hvalid]
    rfl
  rintro ⟨hlt, -⟩
  omega

/-- Where the entries of the table lead that are not about ASCII. -/
theorem image_of_mem_runs {r : CaseRun} (hr : r ∈ lowerCasing.runs) {code image : Nat}
    (hcode : 0x80 ≤ code) (h : r.map? code = some image) :
    image = 'k'.toNat ∨ 0x80 ≤ image ∧ image.isValidChar := by
  have htable : ∀ r ∈ lowerCasing.runs, r.last < 0x80 ∨ (r.first = r.last ∧ r.image = 'k'.toNat)
      ∨ 0x80 ≤ r.image ∧ (r.image + (r.last - r.first) < 0xD800
        ∨ 0xDFFF < r.image ∧ r.image + (r.last - r.first) < 0x110000) := by decide +kernel
  unfold CaseRun.map? at h
  split at h
  · next hin =>
    obtain rfl := Option.some.inj h
    rcases htable r hr with hsmall | ⟨hsingle, himage⟩ | ⟨hle, hrange⟩
    · omega
    · left
      omega
    · right
      refine ⟨by omega, ?_⟩
      unfold Nat.isValidChar
      omega
  · cases h

/-- Of the characters that one outside ASCII becomes, some are not plain. -/
theorem exists_mem_map_not_isPlainChar (h : 0x80 ≤ c.toNat) :
    ∃ d ∈ lowerCasing.map c, ¬IsPlainChar d := by
  have hexpansions : ∀ e ∈ lowerCasing.expansions,
      ∃ code ∈ e.2, 0x80 ≤ code ∧ code.isValidChar := by decide
  unfold CaseTable.map
  split
  · next image hsome =>
    obtain ⟨r, hr, hmap⟩ := List.exists_of_findSome?_eq_some hsome
    refine ⟨Char.ofNat image, List.mem_singleton_self _, ?_⟩
    rcases image_of_mem_runs (List.takeWhile_subset _ hr) h hmap with rfl | ⟨hle, hvalid⟩
    · decide
    · exact not_isPlainChar_ofNat hle hvalid
  · split
    · next codes hlookup =>
      obtain ⟨before, after, hsplit, -⟩ := List.lookup_eq_some_iff.mp hlookup
      have hmem : (c.toNat, codes) ∈ lowerCasing.expansions :=
        List.takeWhile_subset _ (by rw [hsplit]; simp)
      obtain ⟨code, hcode, hle, hvalid⟩ := hexpansions _ hmem
      exact ⟨Char.ofNat code, List.mem_map_of_mem hcode, not_isPlainChar_ofNat hle hvalid⟩
    · exact ⟨c, List.mem_singleton_self c, fun hplain ↦ absurd hplain.1 (by omega)⟩

/-- A plain text is the lower case of the texts with its ASCII letters and of no others. -/
theorem lowerAfter_eq_iff (h : ∀ d ∈ target, IsPlainChar d) (before cs : List Char) :
    lowerAfter before cs = target ↔ cs.map Char.toLower = target := by
  induction cs generalizing before target with
  | nil => rfl
  | cons c rest ih =>
    by_cases hc : c.toNat < 0x80
    · have hsigma : c ≠ 'Σ' := by
        rintro rfl
        exact absurd hc (by decide)
      rw [lowerAfter, if_neg hsigma, lowerCasing_map_of_lt hc, List.map_cons]
      cases target with
      | nil => simp
      | cons d target =>
        rw [List.forall_mem_cons] at h
        rw [List.singleton_append, List.cons_eq_cons, List.cons_eq_cons, ih h.2]
    · rw [Nat.not_lt] at hc
      -- Neither side can be a plain text, whatever follows.
      have hlower : ∃ d ∈ lowerAfter before (c :: rest), ¬IsPlainChar d := by
        rw [lowerAfter]
        by_cases hsigma : c = 'Σ'
        · rw [if_pos hsigma]
          split
          · exact ⟨'ς', by simp, by decide⟩
          · exact ⟨'σ', by simp, by decide⟩
        · rw [if_neg hsigma]
          obtain ⟨d, hd, hplain⟩ := exists_mem_map_not_isPlainChar hc
          exact ⟨d, List.mem_append_left _ hd, hplain⟩
      constructor
      · rintro rfl
        obtain ⟨d, hd, hplain⟩ := hlower
        exact absurd (h d hd) hplain
      · rintro rfl
        have hplain := h (c.toLower) (by simp)
        rw [toLower_of_le hc] at hplain
        exact absurd hplain.1 (by omega)

end Text

/-- A plain text is the lower case of the texts that are the same but for the case of ASCII letters.
-/
theorem toLowerCase_eq_iff {text target : String} (h : ∀ c ∈ target.toList, IsPlainChar c) :
    toLowerCase text = target ↔ text.toLower = target := by
  have hlower : text.toLower.toList = text.toList.map Char.toLower := String.toList_map
  rw [← String.toList_inj, ← String.toList_inj, toLowerCase, String.toList_ofList, Text.lowerCase,
    Text.lowerAfter_eq_iff h, hlower]

end FSharpFlags
