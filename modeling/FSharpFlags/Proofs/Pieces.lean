import Mathlib.Data.List.Basic

/-!
# Texts in pieces

Paths are read piece by piece at their slashes, names of frameworks at their commas and flags at
their blanks, and the pieces of an answer are written with something between them. What is used of
the pieces rests on two facts. Behind each other they are the text without its separators; and of
two texts behind each other the pieces are those of either one, only that the two pieces that meet
become one.
-/

namespace FSharpFlags

variable {α : Type}

/-! ## Split texts -/

/-- The pieces hold everything but the separators. -/
theorem flatten_splitOnP (p : α → Bool) (l : List α) :
    (l.splitOnP p).flatten = l.filter fun a ↦ !p a := by
  induction l with
  | nil => rfl
  | cons a l ih =>
    obtain ⟨first, more, hsplit⟩ := List.exists_cons_of_ne_nil (List.splitOnP_ne_nil p l)
    rw [List.splitOnP_cons_eq_if_modifyHead]
    by_cases ha : p a = true
    · rw [if_pos ha, List.flatten_cons, List.nil_append, ih, List.filter_cons_of_neg (by simp [ha])]
    · rw [if_neg ha, hsplit, List.modifyHead_cons, List.flatten_cons, List.cons_append,
        ← List.flatten_cons, ← hsplit, ih, List.filter_cons_of_pos (by simp [ha])]

/-- The last piece of one list and the first piece of the next one grow together. -/
theorem exists_splitOnP_append (p : α → Bool) (xs ys : List α) :
    ∃ front last first back, xs.splitOnP p = front ++ [last] ∧ ys.splitOnP p = first :: back
      ∧ (xs ++ ys).splitOnP p = front ++ (last ++ first) :: back := by
  obtain ⟨first, back, hys⟩ := List.exists_cons_of_ne_nil (List.splitOnP_ne_nil p ys)
  induction xs with
  | nil => exact ⟨[], [], first, back, rfl, hys, hys⟩
  | cons x xs ih =>
    obtain ⟨front, last, first', back', hxs, hys', hsplit⟩ := ih
    rw [List.cons_append, List.splitOnP_cons_eq_if_modifyHead,
      List.splitOnP_cons_eq_if_modifyHead, hxs, hsplit]
    by_cases hx : p x = true
    · rw [if_pos hx, if_pos hx]
      exact ⟨[] :: front, last, first', back', rfl, hys', rfl⟩
    · rw [if_neg hx, if_neg hx]
      cases front with
      | nil => exact ⟨[], x :: last, first', back', rfl, hys', rfl⟩
      | cons piece front => exact ⟨(x :: piece) :: front, last, first', back', rfl, hys', rfl⟩

/-- What has no break in it goes into one piece, together with what it touches on either side. -/
theorem exists_splitOnP_append_append {p : α → Bool} {mid : List α}
    (h : ∀ a ∈ mid, p a = false) (xs ys : List α) :
    ∃ front last first back, xs.splitOnP p = front ++ [last] ∧ ys.splitOnP p = first :: back
      ∧ (xs ++ (mid ++ ys)).splitOnP p = front ++ (last ++ (mid ++ first)) :: back := by
  obtain ⟨front, last, head, back, hxs, hrest, hall⟩ := exists_splitOnP_append p xs (mid ++ ys)
  obtain ⟨front', last', first, back', hmid, hys, hmid_ys⟩ := exists_splitOnP_append p mid ys
  have hwhole : mid.splitOnP p = [mid] := List.splitOnP_eq_singleton fun a ha ↦ by simp [h a ha]
  rw [hwhole] at hmid
  obtain ⟨rfl, hlast⟩ : front' = [] ∧ [last'] = [mid] := by
    rcases front' with _ | ⟨piece, front'⟩
    · exact ⟨rfl, hmid.symm⟩
    · simp at hmid
  obtain rfl := List.singleton_inj.mp hlast
  rw [hmid_ys, List.nil_append] at hrest
  obtain ⟨rfl, rfl⟩ := List.cons.inj hrest
  exact ⟨front, last, first, back', hxs, hys, hall⟩

section Separator

variable [DecidableEq α] {a b : α} {l piece ending : List α}

theorem mem_of_mem_splitOn (h : piece ∈ l.splitOn a) (hb : b ∈ piece) : b ∈ l ∧ b ≠ a := by
  have hmem : b ∈ (l.splitOn a).flatten := List.mem_flatten.mpr ⟨piece, h, hb⟩
  rw [List.splitOn_eq_splitOnP, flatten_splitOnP, List.mem_filter] at hmem
  exact ⟨hmem.1, by simpa using hmem.2⟩

theorem not_mem_of_mem_splitOn (h : piece ∈ l.splitOn a) : a ∉ piece :=
  fun ha ↦ (mem_of_mem_splitOn h ha).2 rfl

/-- An ending without separators goes into the last piece. -/
theorem exists_splitOn_append (h : a ∉ ending) (l : List α) :
    ∃ front last, (l ++ ending).splitOn a = front ++ [last ++ ending] := by
  obtain ⟨front, last, first, back, -, hending, hsplit⟩ :=
    exists_splitOnP_append (· == a) l ending
  rw [← List.splitOn_eq_splitOnP, List.splitOn_eq_singleton h] at hending
  obtain ⟨rfl, rfl⟩ := List.cons.inj hending
  rw [← List.splitOn_eq_splitOnP] at hsplit
  exact ⟨front, last, hsplit⟩

end Separator

/-! ## Joined texts -/

theorem intercalate_cons (sep : α) (first : List α) (more : List (List α)) :
    [sep].intercalate (first :: more) = first ++ more.flatMap (sep :: ·) := by
  induction more generalizing first with
  | nil => simp
  | cons piece more ih =>
    rw [List.intercalate_cons_cons, ih, List.flatMap_cons, List.append_assoc,
      List.singleton_append, List.cons_append]

theorem eq_or_mem_of_mem_intercalate {a b : α} {pieces : List (List α)}
    (h : b ∈ [a].intercalate pieces) : b = a ∨ ∃ piece ∈ pieces, b ∈ piece := by
  cases pieces with
  | nil => cases h
  | cons first more =>
    rw [intercalate_cons, List.mem_append, List.mem_flatMap] at h
    rcases h with hfirst | ⟨piece, hpiece, hb⟩
    · exact .inr ⟨first, List.mem_cons_self, hfirst⟩
    · exact (List.mem_cons.mp hb).imp_right fun hb ↦ ⟨piece, List.mem_cons_of_mem _ hpiece, hb⟩

end FSharpFlags
