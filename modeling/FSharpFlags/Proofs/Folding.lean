import FSharpFlags.Text.CaseFold

/-!
# Case folding leaves path marks alone

Case folding moves characters and may even lengthen a text, but the characters that give a path
its structure, the two separators and the dot, lie below every image in the table. Folding neither
removes nor produces one of them, so what a text says about components is said by its folded form
as well.

The argument looks at the table only through one bound: all that it produces lies above the code
point of the backslash.
-/

namespace FSharpFlags

/-! ## What a table produces -/

/-- A code point as a run of its own that does not move. -/
def CaseRun.single (code : Nat) : CaseRun := ⟨code, code, 1, code⟩

/-- The runs whose images a table produces. -/
def CaseTable.images (t : CaseTable) : List CaseRun :=
  t.runs ++ t.expansions.flatMap fun e ↦ e.2.map CaseRun.single

theorem CaseRun.map?_single {code : Nat} : (CaseRun.single code).map? code = some code := by
  simp [CaseRun.map?, single]

/-- A table leaves a character as it is, or produces images of its runs. -/
theorem CaseTable.mem_map_cases {t : CaseTable} {c d : Char} (h : d ∈ t.map c) :
    (d = c ∧ t.map c = [c])
      ∨ ∃ r ∈ t.images, ∃ code image, r.map? code = some image ∧ d = Char.ofNat image := by
  unfold CaseTable.map at h ⊢
  split at h
  · next image hsome =>
    obtain ⟨r, hr, hmap⟩ := List.exists_of_findSome?_eq_some hsome
    exact .inr ⟨r, List.mem_append_left _ (List.takeWhile_subset _ hr), _, image, hmap,
      List.mem_singleton.mp h⟩
  · split at h
    · next codes hlookup =>
      obtain ⟨before, after, hsplit, -⟩ := List.lookup_eq_some_iff.mp hlookup
      have hmem : (c.toNat, codes) ∈ t.expansions :=
        List.takeWhile_subset _ (by rw [hsplit]; simp)
      obtain ⟨code, hcode, rfl⟩ := List.mem_map.mp h
      refine .inr ⟨.single code, List.mem_append_right _ ?_, code, code, CaseRun.map?_single, rfl⟩
      exact List.mem_flatMap.mpr ⟨_, hmem, List.mem_map_of_mem hcode⟩
    · exact .inl ⟨List.mem_singleton.mp h, by simp_all⟩

theorem CaseRun.le_of_map? {r : CaseRun} {code image : Nat} (h : r.map? code = some image) :
    r.image ≤ image := by
  unfold CaseRun.map? at h
  split at h
  · obtain rfl := Option.some.inj h
    exact Nat.le_add_right _ _
  · cases h

theorem toNat_ofNat_eq_or_zero (code : Nat) :
    (Char.ofNat code).toNat = code ∨ (Char.ofNat code).toNat = 0 := by
  by_cases h : code.isValidChar
  · rw [Char.ofNat, dif_pos h]
    exact Or.inl rfl
  · rw [Char.ofNat, dif_neg h]
    exact Or.inr rfl

/-- A character that a table produces is the one it was given, or lies above any bound below all
images; a code that is no character counts as zero. -/
theorem CaseTable.eq_or_lt_of_mem_map {t : CaseTable} {bound : Nat}
    (himages : ∀ r ∈ t.images, bound < r.image) {c d : Char} (h : d ∈ t.map c) :
    d = c ∨ d.toNat = 0 ∨ bound < d.toNat := by
  rcases mem_map_cases h with ⟨rfl, -⟩ | ⟨r, hr, code, image, hmap, rfl⟩
  · exact .inl rfl
  · have hlt : bound < image := Nat.lt_of_lt_of_le (himages r hr) (CaseRun.le_of_map? hmap)
    rcases toNat_ofNat_eq_or_zero image with heq | hzero
    · exact .inr (.inr (by omega))
    · exact .inr (.inl hzero)

/-! ## Path marks -/

/-- Whether a character separates components, in either style. -/
def isSeparator (c : Char) : Bool := c = '/' || c = '\\'

/-- Whether a character matters to the structure of a path: a separator or a dot. -/
def isPathMark (c : Char) : Bool := isSeparator c || c = '.'

theorem isPathMark_of_isSeparator {c : Char} (h : isSeparator c = true) : isPathMark c = true := by
  simp [isPathMark, h]

theorem isPathMark_iff {c : Char} : isPathMark c = true ↔ c = '/' ∨ c = '\\' ∨ c = '.' := by
  simp [isPathMark, isSeparator, or_assoc]

theorem caseFolding_map_of_isPathMark {c : Char} (h : isPathMark c = true) :
    Text.caseFolding.map c = [c] := by
  rcases isPathMark_iff.mp h with rfl | rfl | rfl <;> decide

/-- Folding produces a path mark only from itself. -/
theorem eq_of_mem_caseFolding_map {c d : Char} (h : d ∈ Text.caseFolding.map c)
    (hd : isPathMark d = true) : d = c := by
  have himages : ∀ r ∈ Text.caseFolding.images, 0x5C < r.image := by decide +kernel
  have hsmall : d.toNat ≠ 0 ∧ d.toNat ≤ 0x5C := by
    rcases isPathMark_iff.mp hd with rfl | rfl | rfl <;> decide
  rcases CaseTable.eq_or_lt_of_mem_map himages h with h | h | h
  · exact h
  · exact absurd h hsmall.1
  · exact absurd h (Nat.not_lt.mpr hsmall.2)

namespace Text

/-- A folded text has the path marks of the text. -/
theorem mem_caseFold_iff {cs : List Char} {d : Char} (hd : isPathMark d = true) :
    d ∈ caseFold cs ↔ d ∈ cs := by
  rw [caseFold, List.mem_flatMap]
  constructor
  · rintro ⟨c, hc, h⟩
    rwa [eq_of_mem_caseFolding_map h hd]
  · intro h
    exact ⟨d, h, by rw [caseFolding_map_of_isPathMark hd]; exact List.mem_singleton_self d⟩

end Text

end FSharpFlags
