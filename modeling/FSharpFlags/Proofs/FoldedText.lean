import FSharpFlags.Proofs.Folding
import FSharpFlags.Proofs.PlainLetters
import Mathlib.Data.List.Basic

/-!
# Folded texts

Folding a text once folds it for good: what folding produces is not moved by it again. It also does
away with every difference in the case of ASCII letters.

That a table leaves alone what it produces could be asked of every character that it produces. It is
asked of pairs of runs instead, which are far fewer: the images of one run lie beyond the ends of
the other one, or fall between the characters that it moves.
-/

namespace FSharpFlags

/-! ## Tables that leave alone what they produce -/

namespace CaseRun

variable {r s : CaseRun} {code image : Nat}

/-- Whether all characters of a run are at even distances from its first one. -/
def isEven (r : CaseRun) : Bool := r.step.beq 2 || r.first.beq r.last

/-- Whether no image of one run is moved by another one: the images lie beyond its ends, or fall
into its gaps. -/
def avoids (r s : CaseRun) : Bool :=
  s.last.blt r.image || (r.image + (r.last - r.first)).blt s.first
    || r.isEven && s.isEven && ((r.image + s.first) % 2).beq 1

theorem map?_eq_some_iff :
    r.map? code = some image ↔ (r.first ≤ code ∧ code ≤ r.last ∧ (code - r.first) % r.step = 0)
      ∧ r.image + (code - r.first) = image := by
  rw [map?, Option.ite_none_right_eq_some, Option.some_inj]

theorem even_of_isEven (h : r.isEven = true) (hr : r.map? code = some image) :
    (code - r.first) % 2 = 0 := by
  obtain ⟨⟨hfirst, hlast, hstep⟩, -⟩ := map?_eq_some_iff.mp hr
  rw [isEven, Bool.or_eq_true, Nat.beq_eq, Nat.beq_eq] at h
  rcases h with htwo | hsingle
  · rwa [htwo] at hstep
  · omega

theorem map?_eq_none_of_avoids (h : r.avoids s = true) (hr : r.map? code = some image) :
    s.map? image = none := by
  obtain ⟨⟨hfirst, hlast, -⟩, himage⟩ := map?_eq_some_iff.mp hr
  rw [Option.eq_none_iff_forall_ne_some]
  intro image' hs
  obtain ⟨⟨hlow, hhigh, -⟩, -⟩ := map?_eq_some_iff.mp hs
  simp only [avoids, Bool.or_eq_true, Bool.and_eq_true, Nat.blt_eq, Nat.beq_eq] at h
  rcases h with (hafter | hbefore) | ⟨⟨hr', hs'⟩, hodd⟩
  · omega
  · omega
  · -- Both runs move every second code point, and the image is on the side that `s` leaves out.
    have heven := even_of_isEven hr' hr
    have heven' := even_of_isEven hs' hs
    omega

end CaseRun

namespace CaseTable

variable {t : CaseTable} {c d : Char}

/-- The runs of the code points that a table moves. -/
def sources (t : CaseTable) : List CaseRun :=
  t.runs ++ t.expansions.map fun e ↦ CaseRun.single e.1

theorem map_eq_self (h : ∀ s ∈ t.sources, s.map? c.toNat = none) : t.map c = [c] := by
  have hruns : (t.runs.takeWhile (·.first ≤ c.toNat)).findSome? (·.map? c.toNat) = none := by
    refine List.findSome?_eq_none_iff.mpr fun s hs ↦ ?_
    exact h s (List.mem_append_left _ (List.takeWhile_subset _ hs))
  have hexpansions : (t.expansions.takeWhile (·.1 ≤ c.toNat)).lookup c.toNat = none := by
    refine List.lookup_eq_none_iff.mpr fun e he ↦ ?_
    rw [bne_iff_ne]
    intro heq
    have hmoved := h (.single e.1) (List.mem_append_right _
      (List.mem_map_of_mem (List.takeWhile_subset _ he)))
    rw [heq, CaseRun.map?_single] at hmoved
    cases hmoved
  rw [map, hruns, hexpansions]

/-- What a table produces it leaves alone, if its images avoid all that it moves. -/
theorem map_eq_self_of_mem_map (hzero : ∀ s ∈ t.sources, 0 < s.first)
    (havoids : (t.images.all fun r ↦ t.sources.all r.avoids) = true) (h : d ∈ t.map c) :
    t.map d = [d] := by
  simp only [List.all_eq_true] at havoids
  rcases mem_map_cases h with ⟨rfl, hself⟩ | ⟨r, hr, code, image, hmap, rfl⟩
  · exact hself
  · refine map_eq_self fun s hs ↦ ?_
    rcases toNat_ofNat_eq_or_zero image with heq | hnone
    · rw [heq]
      exact CaseRun.map?_eq_none_of_avoids (havoids r hr s hs) hmap
    · -- A code that is no character counts as zero, before all that the table moves.
      rw [hnone]
      exact if_neg fun ⟨hlow, _⟩ ↦ absurd (hzero s hs) (by omega)

end CaseTable

namespace Text

variable {c d : Char}

/-! ## Folding twice -/

theorem caseFolding_map_of_mem (h : d ∈ caseFolding.map c) : caseFolding.map d = [d] := by
  refine CaseTable.map_eq_self_of_mem_map ?_ ?_ h
  · decide +kernel
  · decide +kernel

theorem caseFold_eq_self {cs : List Char} (h : ∀ c ∈ cs, caseFolding.map c = [c]) :
    caseFold cs = cs := by
  rw [caseFold, List.flatMap_congr h, List.flatMap_singleton']

/-- **Folding twice** is folding once. -/
theorem caseFold_caseFold (cs : List Char) : caseFold (caseFold cs) = caseFold cs := by
  refine caseFold_eq_self fun d hd ↦ ?_
  obtain ⟨c, -, hc⟩ := List.mem_flatMap.mp hd
  exact caseFolding_map_of_mem hc

theorem caseFolding_map_ne_nil (c : Char) : caseFolding.map c ≠ [] := by
  have hexpansions : ∀ e ∈ caseFolding.expansions, e.2 ≠ [] := by decide +kernel
  unfold CaseTable.map
  split
  · exact List.cons_ne_nil _ _
  · split
    · next codes hlookup =>
      obtain ⟨before, after, hsplit, -⟩ := List.lookup_eq_some_iff.mp hlookup
      have hmem : (c.toNat, codes) ∈ caseFolding.expansions :=
        List.takeWhile_subset _ (by rw [hsplit]; simp)
      exact fun hnil ↦ hexpansions _ hmem (List.map_eq_nil_iff.mp hnil)
    · exact List.cons_ne_nil _ _

/-! ## ASCII letters -/

theorem caseFolding_map_toLower (c : Char) : caseFolding.map c.toLower = caseFolding.map c := by
  by_cases h : c.toNat < 0x80
  · have hall : ∀ code < 0x80,
        caseFolding.map (Char.ofNat code).toLower = caseFolding.map (Char.ofNat code) := by
      decide +kernel
    rw [← Char.ofNat_toNat c]
    exact hall c.toNat h
  · rw [toLower_of_le (Nat.not_lt.mp h)]

theorem caseFold_map_toLower (cs : List Char) : caseFold (cs.map Char.toLower) = caseFold cs := by
  rw [caseFold, List.flatMap_map, caseFold]
  exact List.flatMap_congr fun c _ ↦ caseFolding_map_toLower c

end Text

end FSharpFlags
