import FSharpFlags.Proofs.Pieces
import FSharpFlags.Proofs.RootedSearch

/-!
# Reading back the text of a path

A path that was read from a text, or put together from such paths, has components that are neither
empty nor `.` and hold no separator. Its text then tells everything about it: the separators in
front are those of the anchor, the others stand between two components, and reading the text gives
the path again.

Two consequences are used elsewhere. The text of such a path has no separator just when the path
lies in the current directory itself. And what a text ends in, if there is no separator in it, is
also what every path ends in that the text is the last part of.
-/

namespace FSharpFlags

namespace Path

variable {p q : Path} {front : List String} {part : String}

/-! ## Paths that were read -/

/-- Whether all components of a path are such as reading finds between separators. -/
def IsRead (p : Path) : Prop := ∀ part ∈ p.parts, isPart part.toList = true ∧ '/' ∉ part.toList

theorem isRead_parse (text : String) : (parse text).IsRead := by
  intro part hpart
  obtain ⟨piece, hpiece, rfl⟩ := List.mem_map.mp hpart
  rw [List.mem_filter] at hpiece
  rw [String.toList_ofList]
  exact ⟨hpiece.2, not_mem_of_mem_splitOn hpiece.1⟩

theorem IsRead.join (hp : p.IsRead) (hq : q.IsRead) : (p.join q).IsRead := by
  unfold Path.join
  split
  · exact hq
  · exact fun part hpart ↦ (List.mem_append.mp hpart).elim (hp part) (hq part)

theorem IsRead.child (hp : p.IsRead) (text : String) : (p.child text).IsRead :=
  hp.join (isRead_parse text)

theorem IsRead.parent (hp : p.IsRead) : p.parent.IsRead :=
  fun part hpart ↦ hp part (List.dropLast_subset _ hpart)

/-! ## Their text -/

theorem text_of_parts_ne_nil (h : p.parts ≠ []) :
    p.text = p.anchor.text ++ "/".intercalate p.parts := by
  rw [text, if_neg fun hempty ↦ h hempty.2]

theorem toList_text_of_parts_ne_nil (h : p.parts ≠ []) :
    p.text.toList = p.anchor.text.toList ++ ['/'].intercalate (p.parts.map String.toList) := by
  rw [text_of_parts_ne_nil h, String.toList_append, String.toList_intercalate]
  rfl

theorem head?_intercalate {first : List Char} {rest : List (List Char)} (h : first ≠ []) :
    (['/'].intercalate (first :: rest)).head? = first.head? := by
  obtain ⟨c, cs, rfl⟩ := List.exists_cons_of_ne_nil h
  cases rest <;> rfl

theorem splitOn_cons_self (cs : List Char) : ('/' :: cs).splitOn '/' = [] :: cs.splitOn '/' := by
  rw [List.splitOn_eq_splitOnP, List.splitOn_eq_splitOnP, List.splitOnP_cons_eq_if_modifyHead]
  rfl

theorem filter_splitOn_anchor (a : Anchor) (cs : List Char) :
    ((a.text.toList ++ cs).splitOn '/').filter isPart = (cs.splitOn '/').filter isPart := by
  cases a with
  | relative => rfl
  | root =>
    show (('/' :: cs).splitOn '/').filter isPart = _
    rw [splitOn_cons_self]
    rfl
  | doubleRoot =>
    show (('/' :: '/' :: cs).splitOn '/').filter isPart = _
    rw [splitOn_cons_self, splitOn_cons_self]
    rfl

theorem anchorOf_length_takeWhile (a : Anchor) {cs : List Char} (h : cs.head? ≠ some '/') :
    anchorOf ((a.text.toList ++ cs).takeWhile (· = '/')).length = a := by
  have hall : ∀ c ∈ a.text.toList, decide (c = '/') = true :=
    List.all_eq_true.mp (by cases a <;> decide)
  have hnone : cs.takeWhile (· = '/') = [] := by
    cases cs with
    | nil => rfl
    | cons c rest =>
      refine List.takeWhile_cons_of_neg fun hc ↦ h ?_
      rw [List.head?_cons, of_decide_eq_true hc]
  rw [List.takeWhile_append_of_pos hall, hnone, List.append_nil]
  cases a <;> rfl

/-- **The text of a path that was read** is read as that path. -/
theorem parse_text (h : p.IsRead) : parse p.text = p := by
  obtain ⟨anchor, parts⟩ := p
  cases parts with
  | nil => cases anchor <;> decide
  | cons first rest =>
    have hfirst := h first List.mem_cons_self
    have hne : first.toList ≠ [] := by
      intro hnil
      rw [hnil] at hfirst
      cases hfirst.1
    have hhead : (['/'].intercalate ((first :: rest).map String.toList)).head? ≠ some '/' := by
      rw [List.map_cons, head?_intercalate hne]
      exact fun hslash ↦ hfirst.2 (List.mem_of_head? hslash)
    have hsplit : (['/'].intercalate ((first :: rest).map String.toList)).splitOn '/'
        = (first :: rest).map String.toList := by
      refine List.splitOn_intercalate '/' (fun piece hpiece ↦ ?_) (by simp)
      obtain ⟨part, hpart, rfl⟩ := List.mem_map.mp hpiece
      exact (h part hpart).2
    have hparts : ((first :: rest).map String.toList).filter isPart
        = (first :: rest).map String.toList := by
      refine List.filter_eq_self.mpr fun piece hpiece ↦ ?_
      obtain ⟨part, hpart, rfl⟩ := List.mem_map.mp hpiece
      exact (h part hpart).1
    have htext := toList_text_of_parts_ne_nil (p := ⟨anchor, first :: rest⟩) (by simp)
    rw [parse, htext, anchorOf_length_takeWhile anchor hhead, filter_splitOn_anchor, hsplit,
      hparts, List.map_map]
    simp

/-- The text of a path has no separator if the path lies in the current directory itself, and only
then. -/
theorem isBare_text_iff (h : p.IsRead) : IsBare p.text ↔ p.parent = .here := by
  constructor
  · intro hbare
    rw [← hbare.parent_parse, parse_text h]
  · intro hparent
    obtain ⟨anchor, parts⟩ := p
    obtain ⟨rfl, hparts⟩ := Path.mk.inj hparent
    rcases parts.eq_nil_or_concat' with rfl | ⟨front, part, rfl⟩
    · rw [IsBare]
      decide
    · rw [List.dropLast_concat] at hparts
      subst hparts
      rw [IsBare, text_of_parts_ne_nil (by simp), List.nil_append, String.intercalate_singleton]
      exact (h part List.mem_cons_self).2

/-! ## What a text ends in -/

theorem suffix_text_of_parts (h : p.parts = front ++ [part]) : part.toList <:+ p.text.toList := by
  rw [text_of_parts_ne_nil (by simp [h]), h, String.toList_append]
  refine List.IsSuffix.trans ?_ (List.suffix_append _ _)
  rcases front.eq_nil_or_concat' with rfl | ⟨_, _, rfl⟩
  · exact String.intercalate_singleton ▸ List.suffix_rfl
  · rw [String.intercalate_append_of_ne_nil (by simp) (by simp), String.intercalate_singleton,
      String.toList_append]
    exact List.suffix_append _ _

/-- A path ends in what the text of its last part ends in. -/
theorem suffix_text_child {ending : String} (hslash : '/' ∉ ending.toList)
    (hlength : 2 ≤ ending.toList.length) (p : Path) (text : String) :
    ending.toList <:+ (p.child (text ++ ending)).text.toList := by
  obtain ⟨front, last, hsplit⟩ := exists_splitOn_append hslash text.toList
  have hpart : isPart (last ++ ending.toList) = true := by
    rw [isPart, Bool.and_eq_true, decide_eq_true_eq, decide_eq_true_eq]
    constructor <;> intro heq <;> have hlen := congrArg List.length heq <;>
      simp only [List.length_append, List.length_nil, List.length_cons] at hlen <;> omega
  have hparse : ∃ front', (parse (text ++ ending)).parts
      = front' ++ [String.ofList (last ++ ending.toList)] := by
    refine ⟨(front.filter isPart).map String.ofList, ?_⟩
    rw [parse, String.toList_append, hsplit, List.filter_append, List.filter_cons_of_pos hpart,
      List.filter_nil, List.map_append, List.map_singleton]
  obtain ⟨front', hparse⟩ := hparse
  have hchild : ∃ front'', (p.child (text ++ ending)).parts
      = front'' ++ [String.ofList (last ++ ending.toList)] := by
    unfold child join
    split
    · exact ⟨front', hparse⟩
    · exact ⟨p.parts ++ front', by rw [hparse, List.append_assoc]⟩
  obtain ⟨front'', hchild⟩ := hchild
  have hsuffix := suffix_text_of_parts hchild
  rw [String.toList_ofList] at hsuffix
  exact (List.suffix_append _ _).trans hsuffix

end Path

end FSharpFlags
