import FSharpFlags.Proofs.Folding
import FSharpFlags.Reference.Key
import Mathlib.Data.List.DropRight

/-!
# The last piece of a path text

What follows the last separator of a path text, in either style, is its last piece. The search for
an assembly looks at the end of the text as it was written, the key of a path at its normal form;
the last piece is where the two meet. Unless it is empty or made of dots that lead elsewhere, it
survives every stage of the key up to case, so a path and its key end alike.

A text whose last piece is empty, `.` or `..` is *open-ended*. For such a text the two part ways:
`/lib/A.dll/` and `/lib/A.dll` have one key, but only the second one ends in `A.dll`.
-/

namespace FSharpFlags

/-! ## Texts -/

namespace Text

/-- What follows the last separator. -/
def lastPiece (cs : List Char) : List Char := cs.rtakeWhile fun c ↦ !isSeparator c

theorem forall_mem_lastPiece (cs : List Char) : ∀ c ∈ lastPiece cs, isSeparator c = false :=
  fun _ h ↦ by simpa using List.mem_rtakeWhile_imp h

theorem forall_beq_slash {cs : List Char} (h : ∀ c ∈ cs, isSeparator c = false) :
    ∀ c ∈ cs, (c == '/') = false := by
  intro c hc
  have hsep := h c hc
  rw [isSeparator, Bool.or_eq_false_iff] at hsep
  simpa using hsep.1

theorem lastPiece_suffix (cs : List Char) : lastPiece cs <:+ cs := List.rtakeWhile_suffix _ cs

theorem lastPiece_of_forall {cs : List Char} (h : ∀ c ∈ cs, isSeparator c = false) :
    lastPiece cs = cs :=
  List.rtakeWhile_eq_self_iff.mpr fun c hc ↦ by simp [h c hc]

theorem lastPiece_append {w : List Char} (h : ∀ c ∈ w, isSeparator c = false)
    (front : List Char) : lastPiece (front ++ w) = lastPiece front ++ w := by
  have hpos : ∀ c ∈ w.reverse, (!isSeparator c) = true := fun c hc ↦ by
    simp [h c (List.mem_reverse.mp hc)]
  rw [lastPiece, List.rtakeWhile, List.reverse_append, List.takeWhile_append_of_pos hpos,
    List.reverse_append, List.reverse_reverse]
  rfl

theorem lastPiece_append_cons {s : Char} {w : List Char} (hs : isSeparator s = true)
    (h : ∀ c ∈ w, isSeparator c = false) (front : List Char) :
    lastPiece (front ++ s :: w) = w := by
  rw [List.append_cons, lastPiece_append h, lastPiece,
    List.rtakeWhile_concat_neg _ _ _ (by simp [hs]), List.nil_append]

/-- A text is its last piece, or has a separator right before it. -/
theorem eq_lastPiece_or (cs : List Char) :
    cs = lastPiece cs ∨ ∃ front s, isSeparator s = true ∧ cs = front ++ s :: lastPiece cs := by
  have hsplit : (cs.rdropWhile fun c ↦ !isSeparator c) ++ lastPiece cs = cs :=
    List.rdropWhile_append_rtakeWhile
  rcases List.eq_nil_or_concat' (cs.rdropWhile fun c ↦ !isSeparator c) with hnil | ⟨front, s, hs⟩
  · rw [hnil, List.nil_append] at hsplit
    exact Or.inl hsplit.symm
  · refine Or.inr ⟨front, s, ?_, ?_⟩
    · have hlast := List.rdropWhile_last_not (fun c ↦ !isSeparator c) cs (by rw [hs]; simp)
      simpa [hs] using hlast
    · rw [hs, List.append_assoc, List.singleton_append] at hsplit
      exact hsplit.symm

/-- Whether a text without separators ends a text is seen from the last piece. -/
theorem suffix_iff_suffix_lastPiece {cs w : List Char} (h : ∀ c ∈ w, isSeparator c = false) :
    w <:+ cs ↔ w <:+ lastPiece cs := by
  constructor
  · rintro ⟨front, rfl⟩
    rw [lastPiece_append h]
    exact List.suffix_append _ _
  · intro hw
    exact hw.trans (lastPiece_suffix cs)

theorem isSeparator_of_mem_caseFold {cs : List Char} (h : ∀ c ∈ cs, isSeparator c = false) :
    ∀ c ∈ caseFold cs, isSeparator c = false := by
  intro c hc
  by_contra hsep
  rw [Bool.not_eq_false] at hsep
  have hmem := (mem_caseFold_iff (isPathMark_of_isSeparator hsep)).mp hc
  rw [h c hmem] at hsep
  cases hsep

theorem lastPiece_caseFold (cs : List Char) :
    lastPiece (caseFold cs) = caseFold (lastPiece cs) := by
  have hpiece := isSeparator_of_mem_caseFold (forall_mem_lastPiece cs)
  rcases eq_lastPiece_or cs with heq | ⟨front, s, hs, heq⟩
  · rw [← heq] at hpiece
    rw [lastPiece_of_forall hpiece, ← heq]
  · conv_lhs => rw [heq]
    rw [caseFold_append, caseFold_cons,
      caseFolding_map_of_isPathMark (isPathMark_of_isSeparator hs), List.singleton_append,
      lastPiece_append_cons hs hpiece]

end Text

/-! ## Slashes for backslashes -/

/-- A character, with the slash for the backslash. -/
def slash (c : Char) : Char := if c = '\\' then '/' else c

theorem slash_of_ne {c : Char} (h : c ≠ '\\') : slash c = c := if_neg h

theorem slash_ne_backslash (c : Char) : slash c ≠ '\\' := by
  unfold slash
  split
  · decide
  · assumption

theorem slash_eq_slash_iff {c : Char} : slash c = '/' ↔ isSeparator c = true := by
  unfold slash isSeparator
  split <;> simp_all

theorem map_slash_eq_self {cs : List Char} (h : '\\' ∉ cs) : cs.map slash = cs := by
  have hmap : cs.map slash = cs.map id :=
    List.map_congr_left fun c hc ↦ slash_of_ne (ne_of_mem_of_not_mem hc h)
  rw [hmap, List.map_id]

theorem toList_slashed (path : String) : (slashed path).toList = path.toList.map slash :=
  String.toList_ofList

theorem backslash_not_mem_slashed (path : String) : '\\' ∉ (slashed path).toList := by
  rw [toList_slashed, List.mem_map]
  exact fun ⟨c, _, hc⟩ ↦ slash_ne_backslash c hc

theorem lastPiece_slashed (path : String) :
    Text.lastPiece (slashed path).toList = Text.lastPiece path.toList := by
  have hpiece : (Text.lastPiece path.toList).map slash = Text.lastPiece path.toList :=
    map_slash_eq_self fun hmem ↦ by cases Text.forall_mem_lastPiece _ _ hmem
  rw [toList_slashed]
  rcases Text.eq_lastPiece_or path.toList with heq | ⟨front, s, hs, heq⟩
  · rw [heq, hpiece, ← heq, Text.lastPiece_of_forall]
    rw [heq]
    exact Text.forall_mem_lastPiece _
  · conv_lhs => rw [heq]
    rw [List.map_append, List.map_cons, hpiece, slash_eq_slash_iff.mpr hs]
    exact Text.lastPiece_append_cons rfl (Text.forall_mem_lastPiece _) _

/-! ## Paths -/

namespace Path

/-- The text of a path ends in its last component. -/
theorem lastPiece_text {p : Path} {front : List String} {w : String}
    (hparts : p.parts = front ++ [w]) (hw : ∀ c ∈ w.toList, isSeparator c = false) :
    Text.lastPiece p.text.toList = w.toList := by
  have htext : p.text = p.anchor.text ++ "/".intercalate (front ++ [w]) := by
    rw [text, if_neg (by simp [hparts]), hparts]
  rw [htext, String.toList_append]
  rcases front.eq_nil_or_concat' with rfl | ⟨_, _, rfl⟩
  · rw [List.nil_append, String.intercalate_singleton, Text.lastPiece_append hw]
    cases p.anchor <;> rfl
  · rw [String.intercalate_append_of_ne_nil (by simp) (by simp), String.intercalate_singleton,
      String.toList_append, String.toList_append, ← List.append_assoc, ← List.append_assoc]
    exact (Text.lastPiece_append hw _).trans (by
      rw [show "/".toList = ['/'] from rfl, Text.lastPiece_append_cons rfl (by simp),
        List.nil_append])

/-- A text that is one component is read as that component. -/
theorem parse_of_isPart {w : String} (hsep : ∀ c ∈ w.toList, isSeparator c = false)
    (hw : isPart w.toList = true) : parse w = ⟨.relative, [w]⟩ := by
  have hslash := Text.forall_beq_slash hsep
  have hanchor : w.toList.takeWhile (· = '/') = [] := by
    cases hlist : w.toList with
    | nil => rfl
    | cons c cs =>
      have hc := hslash c (by rw [hlist]; exact List.mem_cons_self)
      rw [List.takeWhile_cons_of_neg (by simpa using hc)]
  rw [parse, List.splitOn_eq_splitOnP, List.splitOnP_eq_singleton hslash, hanchor,
    List.filter_cons_of_pos hw, List.filter_nil, List.map_singleton, String.ofList_toList]
  rfl

/-- The text of a place in a directory ends in the name of the place. -/
theorem lastPiece_child (p : Path) {w : String} (hsep : ∀ c ∈ w.toList, isSeparator c = false)
    (hw : isPart w.toList = true) : Text.lastPiece (p.child w).text.toList = w.toList := by
  have hparts : (p.child w).parts = p.parts ++ [w] := by
    rw [child, parse_of_isPart hsep hw, join_of_relative rfl]
  exact lastPiece_text hparts hsep

/-- A last piece that is a component is the last component that is read. -/
theorem exists_parts_parse {text : String} (hback : '\\' ∉ text.toList)
    (hw : isPart (Text.lastPiece text.toList) = true) :
    ∃ front, (parse text).parts = front ++ [String.ofList (Text.lastPiece text.toList)] := by
  have hlast := List.splitOnP_eq_singleton
    (Text.forall_beq_slash (Text.forall_mem_lastPiece text.toList))
  have hfilter : [Text.lastPiece text.toList].filter isPart = [Text.lastPiece text.toList] := by
    rw [List.filter_cons_of_pos hw, List.filter_nil]
  rcases Text.eq_lastPiece_or text.toList with heq | ⟨front, s, hs, heq⟩
  · refine ⟨[], ?_⟩
    rw [← heq] at hlast hfilter ⊢
    rw [parse, List.splitOn_eq_splitOnP, hlast, hfilter, List.map_singleton, List.nil_append]
  · obtain rfl : s = '/' := by
      have hmem : s ∈ text.toList := by rw [heq]; simp
      rcases (by simpa [isSeparator] using hs : s = '/' ∨ s = '\\') with rfl | rfl
      · rfl
      · exact absurd hmem hback
    refine ⟨((front.splitOnP (· == '/')).filter isPart).map String.ofList, ?_⟩
    have hsplit : text.toList.splitOnP (· == '/')
        = front.splitOnP (· == '/') ++ [Text.lastPiece text.toList] := by
      conv_lhs => rw [heq]
      rw [List.splitOnP_append_cons (p := (· == '/')) front _ rfl, hlast]
    rw [parse, List.splitOn_eq_splitOnP, hsplit, List.filter_append, hfilter, List.map_append,
      List.map_singleton]

theorem exists_parts_normal {p : Path} {front : List String} {w : String}
    (hparts : p.parts = front ++ [w]) (hw : w ≠ "..") :
    ∃ front', p.normal.parts = front' ++ [w] := by
  refine ⟨(front.foldl (push p.isAbsolute) []).reverse, ?_⟩
  rw [normal, hparts, List.foldl_append, List.foldl_cons, List.foldl_nil, push_of_ne hw,
    List.reverse_cons]

end Path

/-! ## Keys -/

/-- Whether a path text ends in a separator or in a component that names no entry of its own. -/
def isOpenEnded (path : String) : Bool :=
  [[], ['.'], ['.', '.']].contains (Text.lastPiece path.toList)

/-- A path that is not open-ended and its key end in the same piece, up to case. -/
theorem lastPiece_referenceKey {path : String} (h : isOpenEnded path = false) :
    Text.lastPiece (referenceKey path).toList = Text.caseFold (Text.lastPiece path.toList) := by
  have hdots : Text.lastPiece path.toList ≠ [] ∧ Text.lastPiece path.toList ≠ ['.']
      ∧ Text.lastPiece path.toList ≠ ['.', '.'] := by
    simpa [isOpenEnded, not_or] using h
  have hpart : Path.isPart (Text.lastPiece (slashed path).toList) = true := by
    simp [Path.isPart, lastPiece_slashed, hdots]
  -- Reading a path splits at forward separators only, so no other one may be left.
  obtain ⟨front, hparse⟩ := Path.exists_parts_parse (backslash_not_mem_slashed path) hpart
  -- A component that leads up would take the one before it away and not stay itself.
  have hup : String.ofList (Text.lastPiece (slashed path).toList) ≠ ".." := by
    rw [lastPiece_slashed]
    intro heq
    exact hdots.2.2 (by rw [← String.toList_ofList (l := Text.lastPiece path.toList), heq]; rfl)
  obtain ⟨front', hnormal⟩ := Path.exists_parts_normal hparse hup
  rw [referenceKey, foldCase, String.toList_ofList, Text.lastPiece_caseFold, normalPath,
    Path.lastPiece_text hnormal, String.toList_ofList, lastPiece_slashed]
  rw [String.toList_ofList]
  exact Text.forall_mem_lastPiece _

end FSharpFlags
