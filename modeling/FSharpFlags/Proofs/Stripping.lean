import FSharpFlags.Text.Blank
import Mathlib.Data.List.DropRight
import Mathlib.Data.List.TakeWhile

/-!
# Stripping

Stripping takes the blanks off both ends of a text and nothing else. Blanks that are put around a
text are therefore never seen by what strips it first, and a text that neither begins nor ends with
a blank is left as it is, whatever is in between.
-/

namespace FSharpFlags

namespace Text

variable {cs before after : List Char} {c : Char}

theorem strip_eq_nil_iff : strip cs = [] ↔ ∀ c ∈ cs, isBlank c = true := by
  rw [strip, List.reverse_eq_nil_iff, List.dropWhile_eq_nil_iff]
  simp only [List.mem_reverse]
  constructor
  · intro h
    cases hrest : cs.dropWhile isBlank with
    | nil => exact List.dropWhile_eq_nil_iff.mp hrest
    | cons c rest =>
      -- What is left begins with a character that is not blank.
      have hhead := List.head_dropWhile_not isBlank (l := cs) (by simp [hrest])
      have hblank := h c (by simp [hrest])
      simp only [hrest, List.head_cons] at hhead
      rw [hblank] at hhead
      cases hhead
  · intro h c hc
    exact h c ((List.dropWhile_sublist _).subset hc)

theorem mem_of_mem_strip (h : c ∈ strip cs) : c ∈ cs :=
  (List.dropWhile_sublist _).subset
    (List.mem_reverse.mp ((List.dropWhile_sublist _).subset (List.mem_reverse.mp h)))

/-- Only blanks are stripped. -/
theorem mem_strip_of_mem (h : c ∈ cs) (hc : isBlank c = false) : c ∈ strip cs := by
  have hkeep : ∀ {ds : List Char}, c ∈ ds → c ∈ ds.dropWhile isBlank := by
    intro ds hds
    rw [← List.takeWhile_append_dropWhile (p := isBlank) (l := ds)] at hds
    refine (List.mem_append.mp hds).resolve_left fun htaken ↦ ?_
    rw [List.mem_takeWhile_imp htaken] at hc
    cases hc
  exact List.mem_reverse.mpr (hkeep (List.mem_reverse.mpr (hkeep h)))

/-- What neither begins nor ends with a blank is left as it is. -/
theorem strip_eq_self (hfirst : ∀ c ∈ cs.head?, isBlank c = false)
    (hlast : ∀ c ∈ cs.getLast?, isBlank c = false) : strip cs = cs := by
  have hbegin : cs.dropWhile isBlank = cs := by
    refine List.dropWhile_eq_self_iff.mpr fun hlength ↦ ?_
    rw [hfirst _ (List.head?_eq_getElem? ▸ List.getElem?_eq_getElem hlength)]
    exact Bool.false_ne_true
  have hend : cs.rdropWhile isBlank = cs := by
    refine List.rdropWhile_eq_self_iff.mpr fun hne ↦ ?_
    rw [hlast _ (List.getLast?_eq_some_getLast hne)]
    exact Bool.false_ne_true
  rw [strip, hbegin]
  exact hend

theorem strip_of_forall (h : ∀ c ∈ cs, isBlank c = false) : strip cs = cs :=
  strip_eq_self (fun c hc ↦ h c (List.mem_of_head? hc)) fun c hc ↦ h c (List.mem_of_getLast? hc)

theorem strip_strip (cs : List Char) : strip (strip cs) = strip cs := by
  -- Blanks at the end are taken off last, which leaves the beginning as it was.
  have hbegin : (strip cs).dropWhile isBlank = strip cs := by
    refine List.dropWhile_eq_self_iff.mpr fun hlength ↦ ?_
    have hstart : strip cs <+: cs.dropWhile isBlank := List.rdropWhile_prefix isBlank _
    have hne : strip cs ≠ [] := List.ne_nil_of_length_pos hlength
    rw [← List.head_eq_getElem hne, hstart.head hne,
      List.head_dropWhile_not isBlank (hstart.ne_nil hne)]
    exact Bool.false_ne_true
  rw [strip, hbegin]
  exact List.rdropWhile_idempotent isBlank _

theorem strip_append_left (h : ∀ c ∈ before, isBlank c = true) (cs : List Char) :
    strip (before ++ cs) = strip cs := by
  rw [strip, List.dropWhile_append_of_pos h, strip]

theorem strip_append_right (h : ∀ c ∈ after, isBlank c = true) (cs : List Char) :
    strip (cs ++ after) = strip cs := by
  by_cases hblank : ∀ c ∈ cs, isBlank c = true
  · rw [strip_eq_nil_iff.mpr hblank, strip_append_left hblank, strip_eq_nil_iff.mpr h]
  · have hrest : (cs.dropWhile isBlank).isEmpty = false := by
      rwa [List.isEmpty_eq_false_iff, Ne, List.dropWhile_eq_nil_iff]
    rw [strip, List.dropWhile_append, hrest, if_neg Bool.false_ne_true, List.reverse_append,
      List.dropWhile_append_of_pos fun c hc ↦ h c (List.mem_reverse.mp hc), strip]

theorem isBlank_of_isDigit (h : c.isDigit = true) : isBlank c = false := by
  have hrange : 48 ≤ c.toNat ∧ c.toNat ≤ 57 := Char.isDigit_iff_toNat.mp h
  rw [← Bool.not_eq_true, isBlank, CharSet.contains_iff]
  simp only [blanks, List.mem_cons, List.not_mem_nil, or_false]
  rintro ⟨range, hrange', hlow, hhigh⟩
  rcases hrange' with rfl | rfl | rfl | rfl | rfl | rfl | rfl | rfl | rfl | rfl <;>
    simp only at hlow hhigh <;> omega

end Text

end FSharpFlags
