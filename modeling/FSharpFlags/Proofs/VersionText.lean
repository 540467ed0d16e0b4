import FSharpFlags.Framework.Version
import FSharpFlags.Proofs.Pieces
import FSharpFlags.Proofs.Stripping
import FSharpFlags.Proofs.Traversal
import Mathlib.Data.Nat.Digits.Defs

/-!
# Versions and their texts

A version is written as its numbers with dots between them. It may stand behind a `v` and among
blanks: the marker is dropped after the blanks around the text, and the blanks between the marker
and the first number are taken off with the segment. Reading gives the version again, as long as
there is one and none of its numbers has more digits than are read.

Reading is more generous. Leading zeros, blanks around any number and segments that are no numerals
are read too, so most texts are not what their version is written as. But every version that was
read can be written and read again, because writing does not need more digits than were read.
-/

namespace FSharpFlags

/-! ## Numerals -/

namespace Numeral

variable {ds : List Char} {n : Nat}

theorem ofDigitChars_lt (h : ∀ d ∈ ds, d.isDigit = true) (init : Nat) :
    Nat.ofDigitChars 10 ds init < (init + 1) * 10 ^ ds.length := by
  induction ds generalizing init with
  | nil => simp
  | cons d rest ih =>
    rw [List.forall_mem_cons] at h
    have hdigit : d.toNat - '0'.toNat < 10 := by
      have hrange : 48 ≤ d.toNat ∧ d.toNat ≤ 57 := Char.isDigit_iff_toNat.mp h.1
      have hzero : '0'.toNat = 48 := rfl
      omega
    rw [Nat.ofDigitChars_cons]
    calc Nat.ofDigitChars 10 rest (10 * init + (d.toNat - '0'.toNat))
        < (10 * init + (d.toNat - '0'.toNat) + 1) * 10 ^ rest.length := ih h.2 _
      _ ≤ (init + 1) * 10 * 10 ^ rest.length := Nat.mul_le_mul_right _ (by omega)
      _ = (init + 1) * 10 ^ (d :: rest).length := by
        rw [List.length_cons, Nat.pow_succ', Nat.mul_assoc]

/-- A number is written with no more digits than it was read from. -/
theorem length_toDigits_value_le (h : isNumeral ds = true) :
    (Nat.toDigits 10 (value ds)).length ≤ ds.length := by
  rw [isNumeral, Bool.and_eq_true, Bool.not_eq_true', List.isEmpty_eq_false_iff,
    List.all_eq_true] at h
  have hlt : value ds < 10 ^ ds.length := by
    rw [value]
    simpa using ofDigitChars_lt h.2 0
  exact Nat.toDigits_length 10 (value ds) ds.length (List.length_pos_iff.mpr h.1) hlt

theorem read_toDigits (h : (Nat.toDigits 10 n).length ≤ digitLimit) :
    read (Nat.toDigits 10 n) = .ok n := by
  rw [read, if_neg (Nat.not_lt.mpr h), value_toDigits]

end Numeral

namespace Version

variable {v : Version} {n : Nat} {segment before between after marker : List Char}

/-- Whether every number of a version can be read from its digits. -/
def IsWritable (v : Version) : Prop := ∀ n ∈ v, (Nat.repr n).length ≤ Numeral.digitLimit

instance (v : Version) : Decidable (IsWritable v) :=
  inferInstanceAs (Decidable (∀ n ∈ v, (Nat.repr n).length ≤ Numeral.digitLimit))

/-! ## Segments -/

theorem isBlank_of_mem_toDigits {c : Char} (h : c ∈ Nat.toDigits 10 n) :
    Text.isBlank c = false :=
  Text.isBlank_of_isDigit (Nat.isDigit_of_mem_toDigits (by decide) (by decide) h)

theorem readSegment_append_left (h : ∀ c ∈ before, Text.isBlank c = true) (segment : List Char) :
    readSegment (before ++ segment) = readSegment segment := by
  rw [readSegment, Text.strip_append_left h, readSegment]

theorem readSegment_toDigits (h : (Nat.repr n).length ≤ Numeral.digitLimit) :
    readSegment (Nat.toDigits 10 n) = .ok n := by
  rw [← String.length_toList, Nat.toList_repr] at h
  rw [readSegment, Text.strip_of_forall fun c hc ↦ isBlank_of_mem_toDigits hc,
    if_pos (Numeral.isNumeral_toDigits n), Numeral.read_toDigits h]

theorem length_repr_of_readSegment (h : readSegment segment = .ok n) :
    (Nat.repr n).length ≤ Numeral.digitLimit := by
  rw [← String.length_toList, Nat.toList_repr]
  rw [readSegment] at h
  split_ifs at h with hnumeral
  · rw [Numeral.read] at h
    split_ifs at h with hlong
    obtain rfl := Except.ok.inj h
    exact (Numeral.length_toDigits_value_le hnumeral).trans (Nat.not_lt.mp hlong)
  · obtain rfl := Except.ok.inj h
    decide

/-! ## Written versions -/

theorem toList_format (v : Version) :
    v.format.toList = ['.'].intercalate (v.map (Nat.toDigits 10)) := by
  have hdigits : String.toList ∘ Nat.repr = Nat.toDigits 10 := funext fun n ↦ Nat.toList_repr
  rw [format, String.toList_intercalate, List.map_map, hdigits]
  rfl

theorem isBlank_of_mem_format {c : Char} (h : c ∈ v.format.toList) : Text.isBlank c = false := by
  rw [toList_format] at h
  rcases eq_or_mem_of_mem_intercalate h with rfl | ⟨digits, hdigits, hc⟩
  · decide
  · obtain ⟨n, -, rfl⟩ := List.mem_map.mp hdigits
    exact isBlank_of_mem_toDigits hc

theorem isDigitSign_of_isDigit {c : Char} (h : c.isDigit = true) : Text.isDigitSign c = true :=
  (CharSet.contains_iff _ _).mpr ⟨(0x30, 0x39), List.mem_cons_self, Char.isDigit_iff_toNat.mp h⟩

/-- A version that is written without a marker does not begin with one. -/
theorem dropMarker_format (v : Version) : dropMarker v.format.toList = v.format.toList := by
  rw [toList_format]
  cases v with
  | nil => rfl
  | cons n rest =>
    obtain ⟨c, cs, hdigits⟩ := List.exists_cons_of_ne_nil (Nat.toDigits_ne_nil (b := 10) (n := n))
    have hc : c.isDigit = true :=
      Nat.isDigit_of_mem_toDigits (by decide) (by decide) (hdigits ▸ List.mem_cons_self)
    rw [List.map_cons, intercalate_cons, hdigits, List.cons_append, dropMarker,
      if_pos (isDigitSign_of_isDigit hc)]

theorem not_mem_of_isBlank {cs : List Char} (h : ∀ c ∈ cs, Text.isBlank c = true) : '.' ∉ cs := by
  intro hdot
  have hblank := h '.' hdot
  revert hblank
  decide

/-- Blanks in front of a written version go into its first segment. -/
theorem splitOn_append_format (h : ∀ c ∈ before, Text.isBlank c = true) (n : Nat) (v : Version) :
    (before ++ (format (n :: v)).toList).splitOn '.'
      = (before ++ Nat.toDigits 10 n) :: v.map (Nat.toDigits 10) := by
  have hwritten : before ++ (format (n :: v)).toList
      = ['.'].intercalate ((before ++ Nat.toDigits 10 n) :: v.map (Nat.toDigits 10)) := by
    rw [toList_format, List.map_cons, intercalate_cons, intercalate_cons, List.append_assoc]
  have hdigits : ∀ m : Nat, '.' ∉ Nat.toDigits 10 m := fun m hdot ↦ by
    have hdigit := Nat.isDigit_of_mem_toDigits (by decide) (by decide) hdot
    cases hdigit
  rw [hwritten]
  refine List.splitOn_intercalate '.' (List.forall_mem_cons.mpr ⟨?_, ?_⟩) (by simp)
  · exact fun hdot ↦ (List.mem_append.mp hdot).elim (not_mem_of_isBlank h) (hdigits n)
  · intro piece hpiece
    obtain ⟨m, -, rfl⟩ := List.mem_map.mp hpiece
    exact hdigits m

/-- Behind a marker nothing is stripped, for there is a number at the end. -/
theorem strip_marked (between : List Char) (n : Nat) (v : Version) :
    Text.strip ('v' :: (between ++ (format (n :: v)).toList))
      = 'v' :: (between ++ (format (n :: v)).toList) := by
  have hne : (format (n :: v)).toList ≠ [] := by
    rw [toList_format, List.map_cons, intercalate_cons]
    exact List.append_ne_nil_of_left_ne_nil Nat.toDigits_ne_nil _
  refine Text.strip_eq_self (fun c hc ↦ ?_) fun c hc ↦ ?_
  · obtain rfl := Option.some.inj hc
    decide
  · rw [← List.cons_append, List.getLast?_append_of_ne_nil _ hne] at hc
    exact isBlank_of_mem_format (List.mem_of_getLast? hc)

/-! ## Spellings -/

/-- Whether a text is what a version is written as, with or without a `v`, among blanks. -/
def IsSpelling (v : Version) (text : String) : Prop :=
  ∃ before marker between after : String,
    (∀ part ∈ [before, between, after], Text.isAllBlank part.toList = true)
      ∧ (marker = "" ∨ marker = "v")
      ∧ text = before ++ marker ++ between ++ v.format ++ after

/-- The segments of a spelling are the digits of the numbers, those of the first one perhaps behind
blanks. -/
theorem exists_segments_of_isSpelling {text : String} (h : IsSpelling (n :: v) text) :
    ∃ blanks : List Char, (∀ c ∈ blanks, Text.isBlank c = true)
      ∧ segments text.toList = (blanks ++ Nat.toDigits 10 n) :: v.map (Nat.toDigits 10) := by
  obtain ⟨before, marker, between, after, hblank, hmarker, rfl⟩ := h
  simp only [List.forall_mem_cons, Text.isAllBlank, List.all_eq_true] at hblank
  obtain ⟨hbefore, hbetween, hafter, -⟩ := hblank
  rcases hmarker with rfl | rfl
  · -- Without a marker there are only blanks before the numbers, and they are stripped.
    refine ⟨[], by simp, ?_⟩
    have hfront : ∀ c ∈ before.toList ++ between.toList, Text.isBlank c = true :=
      fun c hc ↦ (List.mem_append.mp hc).elim (hbefore c) (hbetween c)
    have hstrip : Text.strip (before ++ "" ++ between ++ format (n :: v) ++ after).toList
        = (format (n :: v)).toList := by
      rw [String.append_empty, String.toList_append, Text.strip_append_right hafter,
        String.toList_append, String.toList_append, Text.strip_append_left hfront,
        Text.strip_of_forall fun c hc ↦ isBlank_of_mem_format hc]
    rw [segments, hstrip, dropMarker_format, ← splitOn_append_format (by simp), List.nil_append]
  · refine ⟨between.toList, hbetween, ?_⟩
    have hstrip : Text.strip (before ++ "v" ++ between ++ format (n :: v) ++ after).toList
        = 'v' :: (between.toList ++ (format (n :: v)).toList) := by
      have hcore : (before ++ "v" ++ between ++ format (n :: v)).toList
          = before.toList ++ 'v' :: (between.toList ++ (format (n :: v)).toList) := by
        simp [String.toList_append]
      rw [String.toList_append, Text.strip_append_right hafter, hcore,
        Text.strip_append_left hbefore, strip_marked]
    rw [segments, hstrip, dropMarker, if_neg (by decide), splitOn_append_format hbetween]

/-! ## Reading -/

theorem parse_of_isSpelling {text : String} (h : IsSpelling v text) (hne : v ≠ [])
    (hv : IsWritable v) : parse text = .ok v := by
  obtain ⟨n, rest, rfl⟩ := List.exists_cons_of_ne_nil hne
  obtain ⟨blanks, hblanks, hsegments⟩ := exists_segments_of_isSpelling h
  rw [IsWritable, List.forall_mem_cons] at hv
  rw [parse, hsegments, mapM_eq_ok_iff, List.forall₂_cons, readSegment_append_left hblanks,
    List.forall₂_map_left_iff, List.forall₂_same]
  exact ⟨readSegment_toDigits hv.1, fun m hm ↦ readSegment_toDigits (hv.2 m hm)⟩

/-- A version that was read has a number, and none of its numbers is too long to be read. -/
theorem of_parse {text : String} (h : parse text = .ok v) : v ≠ [] ∧ IsWritable v := by
  constructor
  · rintro rfl
    exact List.splitOn_ne_nil _ _ (List.forall₂_nil_right_iff.mp (mapM_eq_ok_iff.mp h))
  · intro n hn
    obtain ⟨segment, -, hsegment⟩ := exists_of_mem_mapM h hn
    exact length_repr_of_readSegment hsegment

theorem isSpelling_format (v : Version) : IsSpelling v v.format :=
  ⟨"", "", "", "", by simp [Text.isAllBlank], .inl rfl, by simp⟩

/-- **Versions are read back from their texts.** However a version is spelled, with or without a `v`
and with any blanks around it, the spelling is read as the version just when there is a number in it
and none has more digits than are read. Whatever text is read, its version has a number, and what
the version is written as is read as the same version again. -/
theorem parse_format (v : Version) :
    (∀ text, IsSpelling v text → (parse text = .ok v ↔ v ≠ [] ∧ IsWritable v))
      ∧ ∀ text, parse text = .ok v → v ≠ [] ∧ parse v.format = .ok v := by
  refine ⟨fun text htext ↦ ⟨of_parse, fun h ↦ parse_of_isSpelling htext h.1 h.2⟩, fun text h ↦ ?_⟩
  obtain ⟨hne, hv⟩ := of_parse h
  exact ⟨hne, parse_of_isSpelling v.isSpelling_format hne hv⟩

/-- A version among blanks of several kinds, and one that is written differently from what was read.
-/
theorem parse_format_marked :
    parse "\u3000v 4.0.30319\n" = .ok [4, 0, 30319]
      ∧ parse " v4.5-beta. 007" = .ok [4, 0, 7]
      ∧ parse (format [4, 0, 7]) = .ok [4, 0, 7] := by
  have hspelled : IsSpelling [4, 0, 30319] "\u3000v 4.0.30319\n" :=
    ⟨"\u3000", "v", " ", "\n", by decide, .inr rfl, by decide⟩
  have hread : parse " v4.5-beta. 007" = .ok [4, 0, 7] := by decide +kernel
  refine ⟨((parse_format _).1 _ hspelled).mpr ⟨by decide, by decide⟩, hread, ?_⟩
  exact ((parse_format _).2 _ hread).2

end Version

end FSharpFlags
