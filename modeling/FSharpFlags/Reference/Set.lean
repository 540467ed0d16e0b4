import FSharpFlags.Reference.Key

/-!
# Reference sets

An ordered set of paths in which paths of equal key count as one. The first spelling offered is
kept, at the place where it was first offered, so the order of the output follows the order of the
input alone.
-/

namespace FSharpFlags

/-- Paths with pairwise different keys, in the order in which they came. -/
structure ReferenceSet where
  /-- The stored paths. -/
  paths : List String
  /-- No key is stored twice. -/
  nodup_keys : (paths.map referenceKey).Nodup
  deriving Repr

namespace ReferenceSet

/-- The set without paths. -/
def empty : ReferenceSet := ⟨[], .nil⟩

/-- Whether a path of the same key is stored. -/
def contains (set : ReferenceSet) (path : String) : Bool :=
  let key := referenceKey path
  set.paths.any fun p ↦ referenceKey p = key

theorem contains_iff {set : ReferenceSet} {path : String} :
    set.contains path = true ↔ ∃ p ∈ set.paths, referenceKey p = referenceKey path := by
  simp [contains]

theorem nodup_keys_concat {set : ReferenceSet} {path : String}
    (h : ¬set.contains path = true) : ((set.paths ++ [path]).map referenceKey).Nodup := by
  rw [contains_iff] at h
  rw [List.map_append, List.nodup_append]
  refine ⟨set.nodup_keys, by simp, ?_⟩
  intro a ha b hb hab
  obtain ⟨p, hp, rfl⟩ := List.mem_map.mp ha
  obtain rfl : b = referenceKey path := by simpa using hb
  exact h ⟨p, hp, hab⟩

/-- Stores a path unless one of the same key is stored. -/
def insert (set : ReferenceSet) (path : String) : ReferenceSet :=
  if h : set.contains path = true then set else ⟨set.paths ++ [path], nodup_keys_concat h⟩

/-- Offers one path and tells whether it was stored. -/
def add (set : ReferenceSet) (path : String) : Bool × ReferenceSet :=
  if set.contains path then (false, set) else (true, set.insert path)

/-- Offers several paths in order. -/
def extend (set : ReferenceSet) (paths : List String) : ReferenceSet := paths.foldl insert set

/-- The set of the given paths. -/
def ofList (paths : List String) : ReferenceSet := empty.extend paths

/-- The number of stored paths. -/
def size (set : ReferenceSet) : Nat := set.paths.length

/-- Whether a path ends in the name of an assembly or of its library, whatever the case. -/
def names (assembly path : String) : Bool :=
  (foldCase (assembly ++ ".dll")).toList.isSuffixOf (foldCase path).toList
    || (foldCase assembly).toList.isSuffixOf (foldCase path).toList

/-- The first stored path that ends in the name of an assembly. -/
def find? (set : ReferenceSet) (assembly : String) : Option String :=
  set.paths.find? (names assembly)

@[simp] theorem paths_empty : empty.paths = [] := rfl

@[simp] theorem extend_nil (set : ReferenceSet) : set.extend [] = set := rfl

@[simp] theorem extend_cons (set : ReferenceSet) (path : String) (rest : List String) :
    set.extend (path :: rest) = (set.insert path).extend rest := rfl

theorem extend_append (set : ReferenceSet) (a b : List String) :
    set.extend (a ++ b) = (set.extend a).extend b := List.foldl_append

theorem insert_of_contains {set : ReferenceSet} {path : String} (h : set.contains path = true) :
    set.insert path = set := by
  simp [insert, h]

theorem add_snd (set : ReferenceSet) (path : String) : (set.add path).2 = set.insert path := by
  cases h : set.contains path with
  | true => simp [add, h, insert_of_contains h]
  | false => simp [add, h]

theorem paths_insert_of_not_contains {set : ReferenceSet} {path : String}
    (h : set.contains path = false) : (set.insert path).paths = set.paths ++ [path] := by
  simp [insert, h]

end ReferenceSet

end FSharpFlags
