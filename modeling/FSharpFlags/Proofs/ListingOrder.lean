import FSharpFlags.Project.Collection
import Mathlib.Data.String.Basic

/-!
# Listings are in order

The libraries of a directory are listed in the order of their names, and what is derived from a
listing keeps the order: leaving out what is no file only thins it, and putting the same directory
in front of two names does not change how they compare. The libraries of a portable profile are
such a listing, so their order depends on the names alone.
-/

namespace FSharpFlags

variable {fs : FileSystem}

namespace FileSystem

theorem pairwise_sortedNames (names : List String) : (sortedNames names).Pairwise (· ≤ ·) := by
  let le : String → String → Bool := fun a b ↦ decide (a ≤ b)
  have htrans : ∀ a b c, le a b = true → le b c = true → le a c = true := by
    intro a b c hab hbc
    rw [decide_eq_true_eq] at hab hbc ⊢
    exact hab.trans hbc
  have htotal : ∀ a b, (le a b || le b a) = true := by
    intro a b
    rw [Bool.or_eq_true, decide_eq_true_eq, decide_eq_true_eq]
    exact le_total a b
  have h := List.pairwise_mergeSort htrans htotal names
  exact h.imp fun hle ↦ of_decide_eq_true hle

theorem pairwise_namesIn {path : String} {keep : String → Bool} {names : List String}
    (h : fs.namesIn path keep = .ok names) : names.Pairwise (· ≤ ·) := by
  obtain ⟨isDirectory, -, h⟩ := bind_eq_ok_iff.mp h
  split at h
  · split at h
    · obtain rfl := Except.ok.inj h
      exact pairwise_sortedNames _
    · obtain rfl := Except.ok.inj h
      exact .nil
    · cases h
  · obtain rfl := Except.ok.inj h
    exact .nil

end FileSystem

theorem sublist_of_filterAuxM {α : Type} {test : α → Except Failure Bool} {as acc out : List α}
    (h : as.filterAuxM test acc = .ok out) : out.Sublist (as.reverse ++ acc) := by
  induction as generalizing acc with
  | nil =>
    obtain rfl := Except.ok.inj h
    exact .refl _
  | cons a rest ih =>
    obtain ⟨keep, -, h⟩ := bind_eq_ok_iff.mp h
    -- The accumulator is in reverse: what is kept next comes before what was kept so far.
    rw [List.reverse_cons, List.append_assoc]
    refine (ih h).trans (List.Sublist.append_left ?_ _)
    cases keep with
    | true => exact .refl _
    | false => exact List.sublist_cons_self _ _

/-- A filter whose test may fail keeps the order. -/
theorem sublist_of_filterM {α : Type} {test : α → Except Failure Bool} {as out : List α}
    (h : as.filterM test = .ok out) : out.Sublist as := by
  obtain ⟨kept, hkept, h⟩ := bind_eq_ok_iff.mp h
  obtain rfl := Except.ok.inj h
  have hsub := (sublist_of_filterAuxM hkept).reverse
  rwa [List.append_nil, List.reverse_reverse] at hsub

/-- The entries of a directory are ordered like their names. -/
theorem Path.text_entry_le (p : Path) {a b : String} (h : a ≤ b) :
    (p.entry a).text ≤ (p.entry b).text := by
  -- The texts of all entries share what stands before the name, whatever the directory.
  have htext : ∃ front : List Char, ∀ name, (p.entry name).text.toList = front ++ name.toList := by
    rcases p.parts.eq_nil_or_concat' with hnil | ⟨_, _, hne⟩
    · refine ⟨p.anchor.text.toList, fun name ↦ ?_⟩
      rw [text, if_neg (by simp [entry]), entry, hnil, List.nil_append,
        String.intercalate_singleton, String.toList_append]
    · refine ⟨(p.anchor.text ++ "/".intercalate p.parts ++ "/").toList, fun name ↦ ?_⟩
      rw [text, if_neg (by simp [entry]), entry,
        String.intercalate_append_of_ne_nil (by simp [hne]) (by simp),
        String.intercalate_singleton, ← String.append_assoc, ← String.append_assoc,
        String.toList_append]
  obtain ⟨front, hfront⟩ := htext
  rw [← not_lt, String.lt_iff_toList_lt] at h ⊢
  rw [hfront, hfront]
  exact List.append_left_le h

theorem FileSystem.pairwise_libraries {directory : Path} {libraries : List String}
    (h : fs.libraries directory = .ok libraries) : libraries.Pairwise (· ≤ ·) := by
  obtain ⟨names, hnames, h⟩ := bind_eq_ok_iff.mp h
  refine List.Pairwise.sublist (sublist_of_filterM h) (List.pairwise_map.mpr ?_)
  exact (pairwise_namesIn hnames).imp fun hle ↦ directory.text_entry_le hle

/-- The libraries of a profile are in order, whichever root they come from. -/
theorem Project.pairwise_profileLibraries {m : Moniker} {roots libraries : List String}
    (h : profileLibraries fs m roots = .ok libraries) : libraries.Pairwise (· ≤ ·) := by
  induction roots with
  | nil =>
    obtain rfl := Except.ok.inj h
    exact .nil
  | cons root rest ih =>
    obtain ⟨isPortableRoot, -, h⟩ := bind_eq_ok_iff.mp h
    split at h
    · obtain ⟨hasProfile, -, h⟩ := bind_eq_ok_iff.mp h
      split at h
      · exact FileSystem.pairwise_libraries h
      · obtain rfl := Except.ok.inj h
        exact .nil
    · exact ih h

end FSharpFlags
