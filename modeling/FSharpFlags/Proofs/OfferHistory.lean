import FSharpFlags.Proofs.FirstOccurrence
import Mathlib.Data.List.Induction

/-!
# Histories of a reference set

A reference set is filled by offers, of one path at a time or of several at once. How the paths
were grouped into offers, and which of them came with the making of the set, leaves no trace: a
set is determined by the sequence of all paths that were ever offered to it. What it holds is the
first path of each key in that sequence, and everything that is said below about membership, order
and search is said about the sequence.

Later offers only append. A path that was found once therefore stays the first match, since every
search goes through the stored paths from the front.
-/

namespace FSharpFlags

/-! ## Sequences of paths -/

/-- Where no key repeats there is nothing to drop. -/
theorem firstOfEachKey_of_nodup {paths : List String} (h : (paths.map referenceKey).Nodup) :
    firstOfEachKey paths = paths := by
  induction paths with
  | nil => rfl
  | cons path rest ih =>
    obtain ⟨hpath, hrest⟩ := List.nodup_cons.mp h
    have hkept : rest.filter (fun q ↦ referenceKey q ≠ referenceKey path) = rest := by
      refine List.filter_eq_self.mpr fun q hq ↦ ?_
      rw [decide_eq_true_eq]
      intro hkey
      exact hpath (List.mem_map.mpr ⟨q, hq, hkey⟩)
    rw [firstOfEachKey_cons, hkept, ih hrest]

/-- One more path in a sequence is kept exactly when its key has not occurred before. -/
theorem firstOfEachKey_concat (paths : List String) (path : String) :
    firstOfEachKey (paths ++ [path]) = firstOfEachKey paths
      ++ if ∃ q ∈ paths, referenceKey q = referenceKey path then [] else [path] := by
  have hsplit : ReferenceSet.ofList (paths ++ [path])
      = (ReferenceSet.ofList paths).insert path := by
    rw [ReferenceSet.ofList, ReferenceSet.extend_append]
    rfl
  rw [← ReferenceSet.paths_ofList, ← ReferenceSet.paths_ofList, hsplit]
  rcases (ReferenceSet.ofList paths).insert_cases path with ⟨hseen, heq⟩ | ⟨hnew, hpaths⟩
  · rw [heq, if_pos (ReferenceSet.contains_ofList_iff.mp hseen), List.append_nil]
  · rw [hpaths, if_neg]
    rw [← ReferenceSet.contains_ofList_iff, hnew]
    exact Bool.false_ne_true

/-- Whether the key of a path occurs in a sequence before the given place. -/
def occursBefore (paths : List String) (path : String) (place : Nat) : Bool :=
  (paths.take place).any fun q ↦ referenceKey q = referenceKey path

/-- What is kept of a sequence are the paths at whose place their key is new. -/
theorem firstOfEachKey_eq_map_filter (paths : List String) :
    firstOfEachKey paths
      = (paths.zipIdx.filter fun entry ↦ !occursBefore paths entry.1 entry.2).map Prod.fst := by
  induction paths using List.reverseRecOn with
  | nil => rfl
  | append_singleton paths path ih =>
    -- The places of the shorter sequence do not see the path at the end.
    have hfront : paths.zipIdx.filter
          (fun entry ↦ !occursBefore (paths ++ [path]) entry.1 entry.2)
        = paths.zipIdx.filter fun entry ↦ !occursBefore paths entry.1 entry.2 := by
      refine List.filter_congr fun entry hentry ↦ ?_
      have hplace : entry.2 ≤ paths.length := by
        have hlt := List.snd_lt_of_mem_zipIdx hentry
        omega
      rw [occursBefore, occursBefore, List.take_append_of_le_length hplace]
    have hlast : occursBefore (paths ++ [path]) path paths.length = true
        ↔ ∃ q ∈ paths, referenceKey q = referenceKey path := by
      simp [occursBefore]
    rw [firstOfEachKey_concat, ih, List.zipIdx_append, List.filter_append, List.map_append, hfront]
    refine congrArg (_ ++ ·) ?_
    by_cases hseen : ∃ q ∈ paths, referenceKey q = referenceKey path
    · rw [if_pos hseen]
      simp [hlast.mpr hseen]
    · have hnew : occursBefore (paths ++ [path]) path paths.length = false :=
        Bool.eq_false_iff.mpr (hlast.not.mpr hseen)
      rw [if_neg hseen]
      simp [hnew]

namespace ReferenceSet

variable {set : ReferenceSet}

theorem eq_of_paths_eq {s t : ReferenceSet} (h : s.paths = t.paths) : s = t := by
  cases s
  cases t
  cases h
  rfl

/-! ## Offers -/

/-- What can be done to a set. -/
inductive Offer where
  /-- Offers one path. -/
  | add (path : String)
  /-- Offers several paths. -/
  | extend (paths : List String)

namespace Offer

/-- The paths offered. -/
def paths : Offer → List String
  | .add path => [path]
  | .extend paths => paths

/-- The set after an offer. -/
def apply (set : ReferenceSet) : Offer → ReferenceSet
  | .add path => (set.add path).2
  | .extend paths => set.extend paths

theorem apply_eq_extend (set : ReferenceSet) (offer : Offer) :
    offer.apply set = set.extend offer.paths := by
  cases offer with
  | add path => exact set.add_snd path
  | extend paths => rfl

end Offer

/-- The set after a history of offers. -/
def run (set : ReferenceSet) (history : List Offer) : ReferenceSet :=
  history.foldl Offer.apply set

/-- The paths that have been offered in a history that began with the given ones. -/
def offered (initial : List String) (history : List Offer) : List String :=
  initial ++ history.flatMap Offer.paths

/-! ## Whole histories -/

theorem run_eq_extend (set : ReferenceSet) (history : List Offer) :
    set.run history = set.extend (history.flatMap Offer.paths) := by
  induction history generalizing set with
  | nil => rfl
  | cons offer rest ih =>
    rw [List.flatMap_cons, extend_append, ← Offer.apply_eq_extend, ← ih]
    rfl

/-- A history is as good as making the set of all its paths at once. -/
theorem run_ofList (initial : List String) (history : List Offer) :
    (ofList initial).run history = ofList (offered initial history) := by
  rw [run_eq_extend, offered, ofList, ofList, extend_append]

theorem add_fst_eq_true_iff {path : String} :
    (set.add path).1 = true ↔ set.contains path = false := by
  cases h : set.contains path <;> simp [add, h]

theorem add_snd_of_fst_eq_false {path : String} (h : (set.add path).1 = false) :
    (set.add path).2 = set := by
  have hcontains : set.contains path = true := by
    rw [← Bool.not_eq_false, ← add_fst_eq_true_iff, h]
    exact Bool.false_ne_true
  rw [add_snd, insert_of_contains hcontains]

theorem paths_prefix_run (set : ReferenceSet) (later : List Offer) :
    set.paths <+: (set.run later).paths := by
  rw [run_eq_extend]
  exact paths_prefix_extend set _

theorem find?_run_of_find? {name path : String} (h : set.find? name = some path)
    (later : List Offer) : (set.run later).find? name = some path := by
  rw [run_eq_extend]
  exact find?_extend_of_find? h _

theorem ofList_paths (set : ReferenceSet) : ofList set.paths = set := by
  apply eq_of_paths_eq
  rw [paths_ofList, firstOfEachKey_of_nodup set.nodup_keys]

/-- **A reference set after any history** of offers is a matter of what was offered, in order: it
holds the first path of each key, has the keys that were offered, never takes back or moves a path
or an answer, and is the set that any other way of offering the same paths leads to. -/
theorem run_invariants (initial : List String) (history : List Offer) :
    let set := (ofList initial).run history
    let paths := offered initial history
    ((set.paths.map referenceKey).Nodup ∧ set.paths
        = (paths.zipIdx.filter fun entry ↦ !occursBefore paths entry.1 entry.2).map Prod.fst)
      ∧ (∀ path, (set.contains path = true ↔ ∃ q ∈ paths, referenceKey q = referenceKey path)
        ∧ ((set.add path).1 = true ↔ ¬∃ q ∈ paths, referenceKey q = referenceKey path)
        ∧ ((set.add path).1 = false → (set.add path).2 = set))
      ∧ (∀ later, set.paths <+: (set.run later).paths
        ∧ ∀ name path, set.find? name = some path → (set.run later).find? name = some path)
      ∧ ofList set.paths = set
      ∧ ∀ front back, front ++ back = paths → (ofList front).extend back = set := by
  -- The set is made of the sequence of all offers, so every part is a fact about sequences.
  have hrun := run_ofList initial history
  have hcontains : ∀ path, ((ofList initial).run history).contains path = true
      ↔ ∃ q ∈ offered initial history, referenceKey q = referenceKey path := by
    intro path
    rw [hrun]
    exact contains_ofList_iff
  refine ⟨⟨nodup_keys _, ?_⟩, fun path ↦ ⟨hcontains path, ?_, add_snd_of_fst_eq_false⟩,
    fun later ↦ ⟨paths_prefix_run _ later, fun name path h ↦ find?_run_of_find? h later⟩,
    ofList_paths _, ?_⟩
  · rw [hrun, paths_ofList, firstOfEachKey_eq_map_filter]
  · rw [add_fst_eq_true_iff, ← hcontains path, Bool.not_eq_true]
  · intro front back hsplit
    rw [hrun, ← hsplit, ofList, ofList, extend_append]

/-- A second spelling and a later library leave what was found in its place. -/
theorem run_invariants_secondSpelling :
    let set := (ofList ["/lib/A.dll"]).run [.extend ["/LIB/a.dll", "B.dll"], .add "/lib//A.dll"]
    set.paths = ["/lib/A.dll", "B.dll"] ∧ set.find? "a" = some "/lib/A.dll"
      ∧ (set.add "b.dll").1 = false ∧ (set.add "b.dll").2 = set
      ∧ (set.run [.add "/other/A.dll"]).find? "a" = some "/lib/A.dll"
      ∧ (ofList ["/lib/A.dll", "/LIB/a.dll"]).extend ["B.dll", "/lib//A.dll"] = set := by
  have h := run_invariants ["/lib/A.dll"] [.extend ["/LIB/a.dll", "B.dll"], .add "/lib//A.dll"]
  have hpaths : ((ofList ["/lib/A.dll"]).run
      [.extend ["/LIB/a.dll", "B.dll"], .add "/lib//A.dll"]).paths = ["/lib/A.dll", "B.dll"] := by
    decide +kernel
  have hfind : ((ofList ["/lib/A.dll"]).run
      [.extend ["/LIB/a.dll", "B.dll"], .add "/lib//A.dll"]).find? "a" = some "/lib/A.dll" := by
    rw [find?, hpaths]
    decide +kernel
  have hadd : (((ofList ["/lib/A.dll"]).run
      [.extend ["/LIB/a.dll", "B.dll"], .add "/lib//A.dll"]).add "b.dll").1 = false := by
    decide +kernel
  exact ⟨hpaths, hfind, hadd, (h.2.1 "b.dll").2.2 hadd, (h.2.2.1 _).2 "a" "/lib/A.dll" hfind,
    h.2.2.2.2 _ _ rfl⟩

end ReferenceSet

end FSharpFlags
