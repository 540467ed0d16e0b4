import FSharpFlags.Proofs.DependencySearch
import FSharpFlags.Proofs.PathText

/-!
# Which identity a cache answers with

An entry of a cache carries a version, a culture and a key token in its name. When a dependency is
neither beside the referring assembly nor looked for in a runtime, it comes from the first entry
that has its file. For a reference with a key token that entry is asked for by its full name, so it
has the identity of the reference. A reference without one takes what the listing offers for the
version, in the order of the names, and the culture is not looked at: the entry is one of the
culture only if its name happens to continue with it.
-/

namespace FSharpFlags

/-- Whether an entry has the identity that a reference asks for. A reference without a key token
asks for none in particular. -/
structure CacheEntry.Suits (e : CacheEntry) (r : AssemblyReference) : Prop where
  /-- The version is the one asked for. -/
  version : e.version = r.fullEntry.version
  /-- The culture is the one asked for. -/
  culture : e.culture = r.fullEntry.culture
  /-- The key token is the one asked for, if there is one. -/
  keyToken : r.keyToken ≠ "" → e.keyToken = r.keyToken

namespace AssemblyReference

variable {fs : FileSystem} {r : AssemblyReference} {referencing : String}
  {runtimeDirectory : Option String} {caches : List String} {cache entry : String}

/-- What the names of all entries of the version and the culture begin with. -/
def cultureMark (r : AssemblyReference) : String :=
  r.fullEntry.version ++ "_" ++ r.fullEntry.culture ++ "_"

theorem suits_fullEntry (r : AssemblyReference) : r.fullEntry.Suits r :=
  ⟨rfl, rfl, fun _ ↦ rfl⟩

/-- The text of a suitable entry begins with the version and the culture. -/
theorem text_of_suits {e : CacheEntry} (h : e.Suits r) : e.text = r.cultureMark ++ e.keyToken := by
  rw [CacheEntry.text, h.version, h.culture, cultureMark]

theorem exists_suits_iff_of_unsigned (h : r.keyToken = "") :
    (∃ e : CacheEntry, e.text = entry ∧ e.Suits r) ↔ r.cultureMark.toList <+: entry.toList := by
  constructor
  · rintro ⟨e, rfl, hsuits⟩
    rw [text_of_suits hsuits, String.toList_append]
    exact List.prefix_append _ _
  · rintro ⟨token, htoken⟩
    refine ⟨{ r.fullEntry with keyToken := String.ofList token }, ?_, rfl, rfl, fun hne ↦ ?_⟩
    · rw [← String.toList_inj, ← htoken]
      exact String.toList_append.trans (by rw [String.toList_ofList]; rfl)
    · exact absurd h hne

/-- Whatever entry comes into question is one of the version. -/
theorem versionMark_prefix_of_mem_entries (h : entry ∈ r.entries fs cache) :
    (r.fullEntry.version ++ "_").toList <+: entry.toList := by
  by_cases hempty : r.keyToken.isEmpty = true
  · exact ((mem_entries_iff hempty).mp h).2
  · rw [entries, if_neg hempty, List.mem_singleton] at h
    rw [h, text_of_suits r.suits_fullEntry, cultureMark]
    simp only [String.toList_append, List.append_assoc]
    exact ⟨_, by simp only [List.append_assoc]; rfl⟩

/-- An entry that comes into question has the identity asked for if the reference has a key token
or the name of the entry continues with the culture. -/
theorem exists_suits_iff_of_mem_entries (h : entry ∈ r.entries fs cache) :
    (∃ e : CacheEntry, e.text = entry ∧ e.Suits r)
      ↔ r.keyToken ≠ "" ∨ r.cultureMark.toList <+: entry.toList := by
  by_cases hunsigned : r.keyToken = ""
  · rw [or_iff_right (not_not.mpr hunsigned)]
    exact exists_suits_iff_of_unsigned hunsigned
  · rw [entries, if_neg (mt String.isEmpty_iff.mp hunsigned), List.mem_singleton] at h
    exact iff_of_true ⟨r.fullEntry, h.symm, r.suits_fullEntry⟩ (.inl hunsigned)

/-- The first directory of an entry that has the file is that of an entry of some cache. -/
theorem exists_entry_of_isFirstDirectory {d : Path}
    (h : IsFirstDirectory fs r (caches.flatMap (r.entryDirectories fs)) d) :
    ∃ cache ∈ caches, ∃ entry ∈ r.entries fs cache, r.entryDirectory cache entry = d := by
  obtain ⟨cache, hcache, hd⟩ := List.mem_flatMap.mp h.mem
  exact ⟨cache, hcache, List.mem_map.mp hd⟩

/-- **A dependency from a cache** comes from the first entry that has its file. The entry is one of
the version; it has the identity of the reference if the reference has a key token or the name of
the entry continues with the culture, and only then. -/
theorem locate_suits_iff {path : String} (hruntime : given runtimeDirectory = none)
    (hbeside : fs.holdsFile (r.fileIn (Path.parse referencing).parent) = false)
    (h : (r.locate fs referencing runtimeDirectory caches).outcome = .ok (some path)) :
    ∃ cache ∈ caches, ∃ entry ∈ r.entries fs cache,
      IsFirstDirectory fs r (caches.flatMap (r.entryDirectories fs)) (r.entryDirectory cache entry)
      ∧ path = r.fileIn (r.entryDirectory cache entry)
      ∧ (r.fullEntry.version ++ "_").toList <+: entry.toList
      ∧ ((∃ e : CacheEntry, e.text = entry ∧ e.Suits r)
        ↔ r.keyToken ≠ "" ∨ r.cultureMark.toList <+: entry.toList) := by
  have hfirst := (eq_find?_of_locate h).symm
  rw [candidates, runtimeDirectories, hruntime, List.map_append, List.find?_append,
    List.map_singleton, List.find?_singleton, hbeside, if_neg Bool.false_ne_true,
    Option.none_or] at hfirst
  obtain ⟨d, hd, rfl⟩ := exists_isFirstDirectory hfirst
  obtain ⟨cache, hcache, entry, hentry, rfl⟩ := exists_entry_of_isFirstDirectory hd
  exact ⟨cache, hcache, entry, hentry, hd, rfl, versionMark_prefix_of_mem_entries hentry,
    exists_suits_iff_of_mem_entries hentry⟩

/-! ### Instances -/

/-- The same reference with a key token. -/
def signedReference : AssemblyReference := { frenchReference with keyToken := "5c" }

/-- With its key token, the French assembly is found in the entry of its identity. -/
theorem locate_suits_signed :
    assemblyStore.holdsFile (signedReference.fileIn (Path.parse "/lib/B.dll").parent) = false
      ∧ (signedReference.locate assemblyStore "/lib/B.dll" none ["/none", "/gac"]).outcome
        = .ok (some "/gac/A/1.0.0.0_fr_5c/A.dll")
      ∧ ∃ cache ∈ ["/none", "/gac"], ∃ e : CacheEntry, e.Suits signedReference
        ∧ "/gac/A/1.0.0.0_fr_5c/A.dll"
          = signedReference.fileIn (signedReference.entryDirectory cache e.text) := by
  have hbeside : assemblyStore.holdsFile
      (signedReference.fileIn (Path.parse "/lib/B.dll").parent) = false := by
    decide +kernel
  have hfound : (signedReference.locate assemblyStore "/lib/B.dll" none ["/none", "/gac"]).outcome
      = .ok (some "/gac/A/1.0.0.0_fr_5c/A.dll") := by decide +kernel
  obtain ⟨cache, hcache, entry, -, -, hpath, -, hsuits⟩ := locate_suits_iff rfl hbeside hfound
  obtain ⟨e, rfl, he⟩ := hsuits.mpr (.inl (by decide))
  exact ⟨hbeside, hfound, cache, hcache, e, he, hpath⟩

theorem candidates_gac :
    frenchReference.candidates assemblyStore "/lib/B.dll" none ["/gac"]
      = ["/lib/A.dll", "/gac/A/1.0.0.0__5c/A.dll", "/gac/A/1.0.0.0_fr_5c/A.dll"] :=
  candidates_append_gac (List.forall_mem_nil _)

/-- The paths of all French entries begin alike. -/
theorem prefix_fileIn_of_suits {e : CacheEntry} (h : e.Suits frenchReference) :
    "/gac/A/1.0.0.0_fr_".toList
      <+: (frenchReference.fileIn (frenchReference.entryDirectory "/gac" e.text)).toList := by
  have hfile : (frenchReference.entryDirectory "/gac" e.text).child (frenchReference.name ++ ".dll")
      = ⟨.root, ["gac", "A", frenchReference.cultureMark ++ e.keyToken, "A.dll"]⟩ := by
    rw [entryDirectory, if_pos (by decide), text_of_suits h]
    rfl
  have hmark : frenchReference.cultureMark = "1.0.0.0_fr_" := by decide +kernel
  refine ⟨(e.keyToken ++ "/A.dll").toList, ?_⟩
  rw [fileIn, hfile, Path.toList_text_of_parts_ne_nil (by simp), hmark]
  simp [List.intercalate, Anchor.text]

/-- Without it, the entry of another culture answers, although the cache has one of the culture
asked for. -/
theorem locate_otherCulture :
    assemblyStore.holdsFile (frenchReference.fileIn (Path.parse "/lib/B.dll").parent) = false
      ∧ (frenchReference.locate assemblyStore "/lib/B.dll" none ["/gac"]).outcome
        = .ok (some "/gac/A/1.0.0.0__5c/A.dll")
      ∧ (∀ e : CacheEntry, e.Suits frenchReference →
        frenchReference.fileIn (frenchReference.entryDirectory "/gac" e.text)
          ≠ "/gac/A/1.0.0.0__5c/A.dll")
      ∧ assemblyStore.holdsFile "/gac/A/1.0.0.0_fr_5c/A.dll" = true := by
  refine ⟨by decide +kernel, ?_, fun e he hpath ↦ ?_, by decide +kernel⟩
  · rw [outcome_locate_of_candidates, candidates_gac]
    · decide +kernel
    · rw [candidates_gac]
      decide +kernel
    · decide +kernel
  · have hprefix := prefix_fileIn_of_suits he
    rw [hpath] at hprefix
    revert hprefix
    decide

end AssemblyReference

end FSharpFlags
