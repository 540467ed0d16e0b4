import FSharpFlags.Reference.Set
import Mathlib.Data.List.Nodup

/-!
# What a reference set stores

Offering paths to a set one by one keeps of each key the first path that has it. The set that
results from a whole run of offers is therefore known from the list of the offers alone: it is the
list without the paths whose key an earlier one has, and what was offered later never moves or
displaces what was offered before. The laws about searching follow, since a search returns the
first match in that order.
-/

namespace FSharpFlags

/-- The paths whose key no earlier path has, in order. -/
def firstOfEachKey (paths : List String) : List String :=
  paths.eraseDupsBy fun a b ↦ referenceKey a = referenceKey b

theorem firstOfEachKey_cons (path : String) (rest : List String) :
    firstOfEachKey (path :: rest)
      = path :: firstOfEachKey (rest.filter fun q ↦ referenceKey q ≠ referenceKey path) := by
  rw [firstOfEachKey, List.eraseDupsBy_cons, firstOfEachKey]
  simp

namespace ReferenceSet

variable {set : ReferenceSet}

theorem eq_of_referenceKey_eq {p q : String} (hp : p ∈ set.paths) (hq : q ∈ set.paths)
    (h : referenceKey p = referenceKey q) : p = q :=
  List.inj_on_of_nodup_map set.nodup_keys hp hq h

/-! ## One offer -/

/-- What an offer can do: nothing, or put the path last. -/
theorem insert_cases (set : ReferenceSet) (path : String) :
    (set.contains path = true ∧ set.insert path = set)
      ∨ (set.contains path = false ∧ (set.insert path).paths = set.paths ++ [path]) := by
  cases h : set.contains path with
  | true => exact Or.inl ⟨rfl, insert_of_contains h⟩
  | false => exact Or.inr ⟨rfl, paths_insert_of_not_contains h⟩

theorem contains_insert_iff {path q : String} :
    (set.insert path).contains q = true
      ↔ set.contains q = true ∨ referenceKey path = referenceKey q := by
  rcases set.insert_cases path with ⟨h, heq⟩ | ⟨-, hpaths⟩
  · rw [heq]
    refine ⟨Or.inl, fun hor ↦ hor.elim id fun hkey ↦ ?_⟩
    obtain ⟨p, hp, hpath⟩ := contains_iff.mp h
    exact contains_iff.mpr ⟨p, hp, hpath.trans hkey⟩
  · rw [contains_iff, hpaths, contains_iff]
    simp only [List.mem_append, List.mem_singleton, or_and_right, exists_or, exists_eq_left]

theorem paths_prefix_insert (set : ReferenceSet) (path : String) :
    set.paths <+: (set.insert path).paths := by
  rcases set.insert_cases path with ⟨-, heq⟩ | ⟨-, hpaths⟩
  · exact ⟨[], by rw [heq, List.append_nil]⟩
  · exact ⟨[path], hpaths.symm⟩

theorem mem_insert {path q : String} (h : q ∈ (set.insert path).paths) :
    q ∈ set.paths ∨ q = path := by
  rcases set.insert_cases path with ⟨-, heq⟩ | ⟨-, hpaths⟩
  · rw [heq] at h
    exact Or.inl h
  · rwa [hpaths, List.mem_append, List.mem_singleton] at h

/-! ## A run of offers -/

theorem contains_extend_iff {paths : List String} {q : String} :
    (set.extend paths).contains q = true
      ↔ set.contains q = true ∨ ∃ p ∈ paths, referenceKey p = referenceKey q := by
  induction paths generalizing set with
  | nil => simp
  | cons path rest ih =>
    rw [extend_cons, ih, contains_insert_iff, or_assoc]
    simp only [List.mem_cons, or_and_right, exists_or, exists_eq_left]

theorem paths_prefix_extend (set : ReferenceSet) (paths : List String) :
    set.paths <+: (set.extend paths).paths := by
  induction paths generalizing set with
  | nil => exact List.prefix_refl _
  | cons path rest ih => exact (paths_prefix_insert set path).trans (ih _)

/-- What a run of offers adds: the first offers of each key that the set did not have. -/
theorem paths_extend (set : ReferenceSet) (paths : List String) :
    (set.extend paths).paths
      = set.paths ++ firstOfEachKey (paths.filter fun q ↦ !set.contains q) := by
  induction paths generalizing set with
  | nil => simp [firstOfEachKey]
  | cons path rest ih =>
    rw [extend_cons, ih]
    rcases set.insert_cases path with ⟨h, heq⟩ | ⟨h, hpaths⟩
    · rw [heq, List.filter_cons_of_neg (by simp [h])]
    · -- The new key is excluded from the rest either by the set or by the head of the list.
      have hrest : (rest.filter fun q ↦ !(set.insert path).contains q)
          = (rest.filter fun q ↦ !set.contains q).filter
              fun q ↦ referenceKey q ≠ referenceKey path := by
        rw [List.filter_filter]
        refine List.filter_congr fun q _ ↦ ?_
        rw [Bool.eq_iff_iff]
        simp only [Bool.not_eq_true', Bool.and_eq_true, decide_eq_true_eq, ← Bool.not_eq_true,
          contains_insert_iff, not_or]
        exact ⟨fun ⟨hset, hne⟩ ↦ ⟨Ne.symm hne, hset⟩, fun ⟨hne, hset⟩ ↦ ⟨hset, Ne.symm hne⟩⟩
      rw [hpaths, hrest, List.filter_cons_of_pos (by simp [h]), firstOfEachKey_cons,
        List.append_assoc, List.singleton_append]

/-- **The set of a list** holds the first path of each key. -/
theorem paths_ofList (paths : List String) : (ofList paths).paths = firstOfEachKey paths := by
  rw [ofList, paths_extend, paths_empty, List.nil_append]
  congr 1
  exact List.filter_eq_self.mpr fun q _ ↦ rfl

theorem contains_ofList_iff {paths : List String} {q : String} :
    (ofList paths).contains q = true ↔ ∃ p ∈ paths, referenceKey p = referenceKey q := by
  rw [ofList, contains_extend_iff]
  exact or_iff_right (by simp [contains])

theorem mem_or_mem_of_mem_extend {paths : List String} {q : String}
    (h : q ∈ (set.extend paths).paths) : q ∈ set.paths ∨ q ∈ paths := by
  induction paths generalizing set with
  | nil => exact Or.inl h
  | cons path rest ih =>
    rcases ih h with hq | hq
    · rcases mem_insert hq with hq | rfl
      · exact Or.inl hq
      · exact Or.inr List.mem_cons_self
    · exact Or.inr (List.mem_cons_of_mem path hq)

theorem mem_of_mem_ofList {paths : List String} {q : String} (h : q ∈ (ofList paths).paths) :
    q ∈ paths :=
  (mem_or_mem_of_mem_extend h).resolve_left (by simp)

/-- What a larger set takes from a run of offers, a smaller one takes as well. -/
theorem mem_or_mem_extend_of_contains {small big : ReferenceSet} {paths : List String} {q : String}
    (hsub : ∀ p, small.contains p = true → big.contains p = true)
    (h : q ∈ (big.extend paths).paths) : q ∈ big.paths ∨ q ∈ (small.extend paths).paths := by
  induction paths generalizing small big with
  | nil => exact Or.inl h
  | cons path rest ih =>
    rw [extend_cons] at h ⊢
    -- Offering the same path to both sets keeps the keys of one among those of the other.
    have hinsert : ∀ p, (small.insert path).contains p = true
        → (big.insert path).contains p = true := fun p hp ↦
      contains_insert_iff.mpr ((contains_insert_iff.mp hp).imp_left (hsub p))
    rcases ih hinsert h with hq | hq
    · rcases mem_insert hq with hq | rfl
      · exact Or.inl hq
      · rcases big.insert_cases q with ⟨-, heq⟩ | ⟨hbig, -⟩
        · rw [heq] at hq
          exact Or.inl hq
        · have hsmall : small.contains q = false := by
            rw [← Bool.not_eq_true]
            intro hc
            rw [hsub q hc] at hbig
            cases hbig
          refine Or.inr ((paths_prefix_extend _ rest).subset ?_)
          rw [paths_insert_of_not_contains hsmall]
          exact List.mem_append_right _ (List.mem_singleton_self q)
    · exact Or.inr hq

/-! ## Searching -/

theorem find?_eq_none_iff {name : String} :
    set.find? name = none ↔ ∀ q ∈ set.paths, names name q = false := by
  rw [find?, List.find?_eq_none]
  simp only [Bool.not_eq_true]

/-- What is found once is found for ever. -/
theorem find?_extend_of_find? {name q : String} (h : set.find? name = some q)
    (paths : List String) : (set.extend paths).find? name = some q :=
  (paths_prefix_extend set paths).find?_eq_some h

end ReferenceSet

/-! ## Nothing but repeated keys is dropped -/

theorem mem_of_mem_firstOfEachKey {paths : List String} {q : String}
    (h : q ∈ firstOfEachKey paths) : q ∈ paths := by
  rw [← ReferenceSet.paths_ofList] at h
  exact ReferenceSet.mem_of_mem_ofList h

theorem exists_mem_firstOfEachKey {paths : List String} {path : String} (h : path ∈ paths) :
    ∃ q ∈ firstOfEachKey paths, referenceKey q = referenceKey path := by
  rw [← ReferenceSet.paths_ofList]
  exact ReferenceSet.contains_iff.mp (ReferenceSet.contains_ofList_iff.mpr ⟨path, h, rfl⟩)

theorem nodup_keys_firstOfEachKey (paths : List String) :
    ((firstOfEachKey paths).map referenceKey).Nodup := by
  rw [← ReferenceSet.paths_ofList]
  exact (ReferenceSet.ofList paths).nodup_keys

end FSharpFlags
