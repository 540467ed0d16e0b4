import FSharpFlags.Proofs.FoldedText
import FSharpFlags.Proofs.PathText
import FSharpFlags.Path.Normal

/-!
# Folding and the structure of a path

Folding changes the characters of a path and not its structure. It neither makes nor removes a
separator, so that the pieces of a folded text are the folded pieces; and a piece is folded to
nothing, to `.` or to `..` only if it is that already. Whatever is done to a path according to its
structure can therefore be done before folding or after it: reading its text, bringing it to its
normal form, writing it.
-/

namespace FSharpFlags

namespace Text

/-! ## Pieces of a folded text -/

/-- A text of path marks is the folded form of itself alone. -/
theorem caseFold_eq_iff {marks : List Char} (h : ∀ c ∈ marks, isPathMark c = true)
    (cs : List Char) : caseFold cs = marks ↔ cs = marks := by
  constructor
  · intro hfold
    induction cs generalizing marks with
    | nil => exact hfold
    | cons c rest ih =>
      obtain ⟨d, ds, hmap⟩ := List.exists_cons_of_ne_nil (caseFolding_map_ne_nil c)
      have hd : d ∈ caseFolding.map c := hmap ▸ List.mem_cons_self
      have hmark : isPathMark d = true := h d (by rw [← hfold, caseFold_cons, hmap]; simp)
      -- What folds to something that begins with a mark is that mark.
      obtain rfl := eq_of_mem_caseFolding_map hd hmark
      rw [caseFold_cons, caseFolding_map_of_isPathMark hmark, List.singleton_append] at hfold
      subst hfold
      exact congrArg (d :: ·) (ih (List.forall_mem_cons.mp h).2 rfl)
  · rintro rfl
    exact caseFold_eq_self fun c hc ↦ caseFolding_map_of_isPathMark (h c hc)

theorem caseFold_intercalate (pieces : List (List Char)) :
    caseFold (['/'].intercalate pieces) = ['/'].intercalate (pieces.map caseFold) := by
  have hslash : caseFolding.map '/' = ['/'] := caseFolding_map_of_isPathMark rfl
  cases pieces with
  | nil => rfl
  | cons first more =>
    rw [List.map_cons, intercalate_cons, intercalate_cons, caseFold_append]
    congr 1
    induction more with
    | nil => rfl
    | cons piece rest ih =>
      rw [List.flatMap_cons, caseFold_append, ih, caseFold_cons, hslash, List.map_cons,
        List.flatMap_cons, List.singleton_append]

theorem splitOn_caseFold (cs : List Char) :
    (caseFold cs).splitOn '/' = (cs.splitOn '/').map caseFold := by
  have hpieces : caseFold cs = ['/'].intercalate ((cs.splitOn '/').map caseFold) := by
    rw [← caseFold_intercalate, List.intercalate_splitOn]
  rw [hpieces]
  refine List.splitOn_intercalate '/' (fun piece hpiece ↦ ?_) ?_
  · obtain ⟨original, horiginal, rfl⟩ := List.mem_map.mp hpiece
    rw [mem_caseFold_iff rfl]
    exact not_mem_of_mem_splitOn horiginal
  · rw [Ne, List.map_eq_nil_iff]
    exact List.splitOn_ne_nil _ _

theorem takeWhile_caseFold (cs : List Char) :
    (caseFold cs).takeWhile (· = '/') = cs.takeWhile (· = '/') := by
  induction cs with
  | nil => rfl
  | cons c rest ih =>
    rw [caseFold_cons]
    by_cases hc : c = '/'
    · subst hc
      rw [caseFolding_map_of_isPathMark rfl, List.singleton_append, List.takeWhile_cons_of_pos rfl,
        List.takeWhile_cons_of_pos rfl, ih]
    · -- The text does not begin with a separator, and neither does its folded form.
      obtain ⟨d, ds, hmap⟩ := List.exists_cons_of_ne_nil (caseFolding_map_ne_nil c)
      have hd : d ≠ '/' := by
        rintro rfl
        exact hc (eq_of_mem_caseFolding_map (hmap ▸ List.mem_cons_self) rfl).symm
      rw [hmap, List.cons_append, List.takeWhile_cons_of_neg (by simpa using hd),
        List.takeWhile_cons_of_neg (by simpa using hc)]

end Text

theorem toList_foldCase (text : String) : (foldCase text).toList = Text.caseFold text.toList :=
  String.toList_ofList

theorem foldCase_foldCase (text : String) : foldCase (foldCase text) = foldCase text := by
  rw [foldCase, toList_foldCase, Text.caseFold_caseFold, foldCase]

theorem foldCase_eq_up_iff {part : String} : foldCase part = ".." ↔ part = ".." := by
  have hmarks : ∀ c ∈ ['.', '.'], isPathMark c = true := List.all_eq_true.mp (by decide)
  rw [← String.toList_inj, toList_foldCase, ← String.toList_inj]
  exact Text.caseFold_eq_iff hmarks part.toList

namespace Path

variable {anchored : Bool}

theorem isPart_caseFold (piece : List Char) : isPart (Text.caseFold piece) = isPart piece := by
  have hempty : Text.caseFold piece = [] ↔ piece = [] := Text.caseFold_eq_iff (by simp) piece
  have hdot : Text.caseFold piece = ['.'] ↔ piece = ['.'] :=
    Text.caseFold_eq_iff (by simp [isPathMark]) piece
  simp only [isPart, ne_eq, hempty, hdot]

/-! ## Folded paths -/

/-- The path with folded components. -/
def folded (p : Path) : Path := { p with parts := p.parts.map foldCase }

/-- A folded text is read as the folded path. -/
theorem parse_foldCase (text : String) : parse (foldCase text) = (parse text).folded := by
  have hparts : isPart ∘ Text.caseFold = isPart := funext isPart_caseFold
  have hfold : String.ofList ∘ Text.caseFold = foldCase ∘ String.ofList := by
    funext piece
    rw [Function.comp_apply, Function.comp_apply, foldCase, String.toList_ofList]
  rw [parse, toList_foldCase, Text.takeWhile_caseFold, Text.splitOn_caseFold, List.filter_map,
    hparts, List.map_map, hfold, ← List.map_map]
  rfl

theorem push_foldCase (stack : List String) (part : String) :
    push anchored (stack.map foldCase) (foldCase part)
      = (push anchored stack part).map foldCase := by
  by_cases hup : part = ".."
  · have hfold := foldCase_eq_up_iff.mpr hup
    rw [hfold, hup]
    cases stack with
    | nil => cases anchored <;> simp [push, ← hup, hfold]
    | cons top below =>
      by_cases htop : top = ".."
      · simp [push, htop, ← hup, hfold]
      · simp [push, foldCase_eq_up_iff, htop]
  · rw [push_of_ne hup, push_of_ne (mt foldCase_eq_up_iff.mp hup), List.map_cons]

theorem foldl_push_foldCase (parts stack : List String) :
    (parts.map foldCase).foldl (push anchored) (stack.map foldCase)
      = (parts.foldl (push anchored) stack).map foldCase := by
  induction parts generalizing stack with
  | nil => rfl
  | cons part rest ih => rw [List.map_cons, List.foldl_cons, push_foldCase, ih, List.foldl_cons]

theorem normal_folded (p : Path) : p.folded.normal = p.normal.folded := by
  have hparts : (p.parts.map foldCase).foldl (push p.isAbsolute) []
      = (p.parts.foldl (push p.isAbsolute) []).map foldCase := foldl_push_foldCase p.parts []
  have hreverse := congrArg List.reverse hparts
  rw [← List.map_reverse] at hreverse
  exact congrArg (Path.mk p.anchor) hreverse

theorem text_folded (p : Path) : p.folded.text = foldCase p.text := by
  obtain ⟨anchor, parts⟩ := p
  cases parts with
  | nil => cases anchor <;> decide
  | cons first rest =>
    have hmarks : ∀ c ∈ anchor.text.toList, isPathMark c = true :=
      List.all_eq_true.mp (by cases anchor <;> decide)
    have hanchor := (Text.caseFold_eq_iff hmarks anchor.text.toList).mpr rfl
    have hfold : String.toList ∘ foldCase = Text.caseFold ∘ String.toList :=
      funext toList_foldCase
    rw [← String.toList_inj, toList_foldCase, toList_text_of_parts_ne_nil (by simp [folded]),
      toList_text_of_parts_ne_nil (by simp), Text.caseFold_append, hanchor,
      Text.caseFold_intercalate, folded, List.map_map, List.map_map, hfold]

end Path

/-- **The normal form of a folded text** is the folded normal form. -/
theorem normalPath_foldCase (text : String) :
    normalPath (foldCase text) = foldCase (normalPath text) := by
  rw [normalPath, Path.parse_foldCase, Path.normal_folded, Path.text_folded, normalPath]

end FSharpFlags
