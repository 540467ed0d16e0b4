import FSharpFlags.Proofs.FoldedPath
import FSharpFlags.Proofs.LastPiece
import FSharpFlags.Proofs.NormalForm
import Mathlib.Logic.Relation

/-!
# Spellings of a path

A path on a case-insensitive file system can be written in many ways, and its key is to be the same
for all of them. Some spellings differ in their characters: in case, or in the style of their
separators. Others differ in what reading passes over: a separator more, a component `.`, separators
at the end.

The key is made in three stages, and each of them leaves alone what the others have done. Writing
slashes for backslashes commutes with folding, which touches no separator; so does the normal form,
since folding keeps the structure of a path. A text without backslashes that is folded and normal is
therefore its own key, and a key is such a text.

What reading passes over does not reach the path that is read. Reading sees the separators that a
text begins with and the components in it; nothing behind a character that is no separator counts
among the former, and the spellings have the same components.
-/

namespace FSharpFlags

/-! ## Slashes in folded texts -/

theorem map_slash_caseFolding_map (c : Char) :
    (Text.caseFolding.map c).map slash = Text.caseFolding.map (slash c) := by
  by_cases hc : c = '\\'
  · subst hc
    rw [caseFolding_map_of_isPathMark rfl, List.map_singleton]
    exact (caseFolding_map_of_isPathMark rfl).symm
  · rw [slash_of_ne hc]
    exact map_slash_eq_self fun hmem ↦ hc (eq_of_mem_caseFolding_map hmem rfl).symm

theorem slashed_foldCase (path : String) : slashed (foldCase path) = foldCase (slashed path) := by
  rw [← String.toList_inj, toList_slashed, toList_foldCase, toList_foldCase, toList_slashed,
    Text.caseFold, Text.caseFold, List.map_flatMap, List.flatMap_map]
  exact List.flatMap_congr fun c _ ↦ map_slash_caseFolding_map c

/-! ## Keys -/

theorem Path.mem_of_mem_parts_parse {text part : String} {c : Char} (h : part ∈ (parse text).parts)
    (hc : c ∈ part.toList) : c ∈ text.toList := by
  obtain ⟨piece, hpiece, rfl⟩ := List.mem_map.mp h
  rw [String.toList_ofList] at hc
  exact (mem_of_mem_splitOn (List.mem_of_mem_filter hpiece) hc).1

theorem backslash_not_mem_normalPath {text : String} (h : '\\' ∉ text.toList) :
    '\\' ∉ (normalPath text).toList := by
  have hanchor (a : Anchor) : '\\' ∉ a.text.toList := by cases a <;> decide
  rw [normalPath]
  by_cases hparts : (Path.parse text).normal.parts = []
  · rw [Path.text, hparts, String.intercalate_nil, String.append_empty]
    split
    · decide
    · exact hanchor _
  · rw [Path.toList_text_of_parts_ne_nil hparts, List.mem_append, not_or]
    refine ⟨hanchor _, fun hmem ↦ ?_⟩
    obtain ⟨piece, hpiece, hc⟩ := (eq_or_mem_of_mem_intercalate hmem).resolve_left (by decide)
    obtain ⟨part, hpart, rfl⟩ := List.mem_map.mp hpiece
    have hread := Path.mem_of_mem_foldl_push (List.mem_reverse.mp hpart)
    exact h (Path.mem_of_mem_parts_parse (hread.resolve_right List.not_mem_nil) hc)

/-- What makes a path text its own key. -/
structure IsKey (path : String) : Prop where
  /-- All separators are slashes. -/
  no_backslash : '\\' ∉ path.toList
  /-- No character is moved by folding. -/
  folded : foldCase path = path
  /-- The text alone leaves nothing to resolve. -/
  normal : normalPath path = path

theorem isKey_referenceKey (path : String) : IsKey (referenceKey path) where
  no_backslash := by
    rw [referenceKey, toList_foldCase, Text.mem_caseFold_iff rfl]
    exact backslash_not_mem_normalPath (backslash_not_mem_slashed path)
  folded := foldCase_foldCase _
  normal := by rw [referenceKey, normalPath_foldCase, Path.normalPath_normalPath]

theorem IsKey.referenceKey_eq {path : String} (h : IsKey path) : referenceKey path = path := by
  have hslashed : slashed path = path := by
    rw [← String.toList_inj, toList_slashed, map_slash_eq_self h.no_backslash]
  rw [referenceKey, hslashed, h.normal, h.folded]

theorem referenceKey_eq_self_iff {path : String} : referenceKey path = path ↔ IsKey path :=
  ⟨fun h ↦ h ▸ isKey_referenceKey path, IsKey.referenceKey_eq⟩

theorem referenceKey_foldCase (path : String) :
    referenceKey (foldCase path) = referenceKey path := by
  rw [referenceKey, slashed_foldCase, normalPath_foldCase, foldCase_foldCase, referenceKey]

/-! ## What reading passes over -/

namespace Path

variable {path other : String} {front back back' : List Char} {c : Char}

/-- The components in a text, innermost last. -/
def pieces (cs : List Char) : List (List Char) := (cs.splitOn '/').filter isPart

theorem pieces_append_cons (front back : List Char) :
    pieces (front ++ '/' :: back) = pieces front ++ pieces back := by
  rw [pieces, List.splitOn_eq_splitOnP, List.splitOnP_append_cons _ _ rfl, List.filter_append,
    ← List.splitOn_eq_splitOnP, ← List.splitOn_eq_splitOnP, pieces, pieces]

theorem pieces_cons (back : List Char) : pieces ('/' :: back) = pieces back :=
  pieces_append_cons [] back

theorem pieces_dot_cons (back : List Char) : pieces ('.' :: '/' :: back) = pieces back :=
  pieces_append_cons ['.'] back

theorem pieces_of_forall {cs : List Char} (h : ∀ c ∈ cs, c = '/') : pieces cs = [] := by
  induction cs with
  | nil => rfl
  | cons c rest ih =>
    obtain ⟨rfl, hrest⟩ := List.forall_mem_cons.mp h
    rw [pieces_cons, ih hrest]

/-- What stands behind a character that is no separator does not count among the leading ones. -/
theorem takeWhile_append_cons (hc : c ≠ '/') (front back back' : List Char) :
    (front ++ c :: back).takeWhile (· = '/') = (front ++ c :: back').takeWhile (· = '/') := by
  induction front with
  | nil =>
    rw [List.nil_append, List.nil_append, List.takeWhile_cons_of_neg (by simpa using hc),
      List.takeWhile_cons_of_neg (by simpa using hc)]
  | cons d front ih =>
    rw [List.cons_append, List.cons_append, List.takeWhile_cons, ih, List.takeWhile_cons]

/-- Behind a character that is no separator only the components matter. -/
theorem parse_eq_of_pieces (hc : c ≠ '/') (hpath : path.toList = front ++ c :: back)
    (hother : other.toList = front ++ c :: back')
    (hpieces : pieces (front ++ c :: back) = pieces (front ++ c :: back')) :
    parse path = parse other := by
  rw [parse, parse, hpath, hother, takeWhile_append_cons hc front back back', ← pieces, hpieces,
    pieces]

end Path

/-! ## Respellings -/

/-- One way to write a path differently. -/
inductive Respelling (path other : String) : Prop
  /-- The path is folded. -/
  | folded (hother : other = foldCase path)
  /-- ASCII letters change case. -/
  | recased (hlower : other.toList.map Char.toLower = path.toList.map Char.toLower)
  /-- Separators are exchanged for separators of the other style. -/
  | slanted (hchars : List.Forall₂ (fun c d ↦ c = d ∨ isSeparator c ∧ isSeparator d)
      path.toList other.toList)
  /-- A separator behind a character that is none is doubled. -/
  | doubled (front back : List Char) (c s : Char) (hc : isSeparator c = false)
      (hs : isSeparator s) (hpath : path.toList = front ++ c :: s :: back)
      (hother : other.toList = front ++ c :: s :: s :: back)
  /-- A component `.` follows a separator behind a character that is none. -/
  | dotted (front back : List Char) (c s t : Char) (hc : isSeparator c = false)
      (hs : isSeparator s) (ht : isSeparator t) (hpath : path.toList = front ++ c :: s :: back)
      (hother : other.toList = front ++ c :: s :: '.' :: t :: back)
  /-- A component `.` follows such a separator at the end. -/
  | dottedEnd (front : List Char) (c s : Char) (hc : isSeparator c = false) (hs : isSeparator s)
      (hpath : path.toList = front ++ [c, s]) (hother : other.toList = front ++ [c, s, '.'])
  /-- Separators follow a last piece that is not empty. -/
  | trailing (separators : List Char) (hlast : Text.lastPiece path.toList ≠ [])
      (hseparators : ∀ s ∈ separators, isSeparator s)
      (hother : other.toList = path.toList ++ separators)

variable {path other : String}

/-- The key knows of a path only what is read from it with slashes for backslashes. -/
theorem referenceKey_congr (h : Path.parse (slashed path) = Path.parse (slashed other)) :
    referenceKey other = referenceKey path := by
  rw [referenceKey, normalPath, ← h, referenceKey, normalPath]

/-- Behind a character that is no separator only the components matter to the key. -/
theorem referenceKey_eq_of_pieces {front back back' : List Char} {c : Char}
    (hc : isSeparator c = false) (hpath : path.toList = front ++ c :: back)
    (hother : other.toList = front ++ c :: back')
    (hpieces : Path.pieces ((front ++ c :: back).map slash)
      = Path.pieces ((front ++ c :: back').map slash)) :
    referenceKey other = referenceKey path := by
  have hslash : slash c ≠ '/' := fun heq ↦ by simp [slash_eq_slash_iff.mp heq] at hc
  simp only [List.map_append, List.map_cons] at hpieces
  refine referenceKey_congr (Path.parse_eq_of_pieces hslash ?_ ?_ hpieces)
  · rw [toList_slashed, hpath, List.map_append, List.map_cons]
  · rw [toList_slashed, hother, List.map_append, List.map_cons]

/-- A separator of either style separates components. -/
theorem pieces_map_slash {s : Char} (hs : isSeparator s) (front back : List Char) (c : Char) :
    Path.pieces ((front ++ c :: s :: back).map slash)
      = Path.pieces ((front ++ [c]).map slash) ++ Path.pieces (back.map slash) := by
  rw [List.append_cons, List.map_append, List.map_cons, slash_eq_slash_iff.mpr hs,
    Path.pieces_append_cons]

theorem referenceKey_of_toLower_eq
    (h : other.toList.map Char.toLower = path.toList.map Char.toLower) :
    referenceKey other = referenceKey path := by
  have hfold : foldCase other = foldCase path := by
    rw [foldCase, ← Text.caseFold_map_toLower, h, Text.caseFold_map_toLower, foldCase]
  rw [← referenceKey_foldCase other, hfold, referenceKey_foldCase]

theorem map_slash_eq_of_forall₂ {cs ds : List Char}
    (h : List.Forall₂ (fun c d ↦ c = d ∨ isSeparator c ∧ isSeparator d) cs ds) :
    cs.map slash = ds.map slash := by
  induction h with
  | nil => rfl
  | cons hhead _ ih =>
    rw [List.map_cons, List.map_cons, ih]
    congr 1
    rcases hhead with rfl | ⟨hc, hd⟩
    · rfl
    · rw [slash_eq_slash_iff.mpr hc, slash_eq_slash_iff.mpr hd]

theorem referenceKey_of_trailing {separators : List Char} (hlast : Text.lastPiece path.toList ≠ [])
    (hseparators : ∀ s ∈ separators, isSeparator s)
    (hother : other.toList = path.toList ++ separators) :
    referenceKey other = referenceKey path := by
  obtain ⟨front, c, hpath⟩ : ∃ front c, path.toList = front ++ [c] := by
    refine (List.eq_nil_or_concat' path.toList).resolve_left fun hnil ↦ hlast ?_
    rw [hnil]
    rfl
  -- Behind a separator at the end the last piece would be empty.
  have hc : isSeparator c = false := by
    by_contra hsep
    rw [hpath, Text.lastPiece_append_cons (by simpa using hsep) (by simp)] at hlast
    exact hlast rfl
  rw [hpath, List.append_assoc, List.singleton_append] at hother
  refine referenceKey_eq_of_pieces hc hpath hother ?_
  cases separators with
  | nil => rfl
  | cons s rest =>
    have hrest : Path.pieces (rest.map slash) = [] := by
      refine Path.pieces_of_forall fun c hmem ↦ ?_
      obtain ⟨t, ht, rfl⟩ := List.mem_map.mp hmem
      exact slash_eq_slash_iff.mpr (hseparators t (List.mem_cons_of_mem _ ht))
    rw [pieces_map_slash (hseparators s List.mem_cons_self), hrest, List.append_nil]

/-- A path that is written differently keeps its key. -/
theorem Respelling.referenceKey_eq (h : Respelling path other) :
    referenceKey other = referenceKey path := by
  cases h with
  | folded hother => rw [hother, referenceKey_foldCase]
  | recased hlower => exact referenceKey_of_toLower_eq hlower
  | slanted hchars =>
    have hslashed : slashed path = slashed other := by
      rw [← String.toList_inj, toList_slashed, toList_slashed, map_slash_eq_of_forall₂ hchars]
    exact referenceKey_congr (congrArg Path.parse hslashed)
  | doubled front back c s hc hs hpath hother =>
    refine referenceKey_eq_of_pieces hc hpath hother ?_
    rw [pieces_map_slash hs, pieces_map_slash hs, List.map_cons, slash_eq_slash_iff.mpr hs,
      Path.pieces_cons]
  | dotted front back c s t hc hs ht hpath hother =>
    refine referenceKey_eq_of_pieces hc hpath hother ?_
    have hdot : ('.' :: t :: back).map slash = '.' :: '/' :: back.map slash := by
      rw [List.map_cons, List.map_cons, slash_eq_slash_iff.mpr ht, slash_of_ne (by decide)]
    rw [pieces_map_slash hs, pieces_map_slash hs, hdot, Path.pieces_dot_cons]
  | dottedEnd front c s hc hs hpath hother =>
    refine referenceKey_eq_of_pieces hc hpath hother ?_
    rw [pieces_map_slash hs, pieces_map_slash hs]
    rfl
  | trailing separators hlast hseparators hother =>
    exact referenceKey_of_trailing hlast hseparators hother

/-- However often and in whatever way a path is written differently, it keeps its key. -/
theorem referenceKey_eq_of_eqvGen (h : Relation.EqvGen Respelling path other) :
    referenceKey other = referenceKey path := by
  induction h with
  | rel _ _ hstep => exact hstep.referenceKey_eq
  | refl _ => rfl
  | symm _ _ _ ih => exact ih.symm
  | trans _ _ _ _ _ ih₁ ih₂ => exact ih₂.trans ih₁

/-- **The key of a path is its normal form**: the key is its own key, the texts that are their own
keys are known, and no respelling of the path changes the key. -/
theorem referenceKey_normalForm (path : String) :
    referenceKey (referenceKey path) = referenceKey path
      ∧ (referenceKey path = path ↔ IsKey path)
      ∧ ∀ other, Relation.EqvGen Respelling path other →
        referenceKey other = referenceKey path :=
  ⟨(isKey_referenceKey path).referenceKey_eq, referenceKey_eq_self_iff,
    fun _ ↦ referenceKey_eq_of_eqvGen⟩

/-- A path and a spelling of it in other letters, with other separators and with more of them. -/
theorem referenceKey_normalForm_strasse :
    Relation.EqvGen Respelling "/Lib/Straße.dll" "\\LIB/.//strasse.dll/\\"
      ∧ referenceKey "\\LIB/.//strasse.dll/\\" = "/lib/strasse.dll" := by
  have hfolded : Respelling "/Lib/Straße.dll" "/lib/strasse.dll" := .folded (by decide +kernel)
  have hrecased : Respelling "/lib/strasse.dll" "/LIB/strasse.dll" := .recased (by decide +kernel)
  have hslanted : Respelling "/LIB/strasse.dll" "\\LIB/strasse.dll" := .slanted (by decide +kernel)
  have hdoubled : Respelling "\\LIB/strasse.dll" "\\LIB//strasse.dll" :=
    .doubled "\\LI".toList "strasse.dll".toList 'B' '/' rfl rfl rfl rfl
  have hdotted : Respelling "\\LIB//strasse.dll" "\\LIB/.//strasse.dll" :=
    .dotted "\\LI".toList "/strasse.dll".toList 'B' '/' '/' rfl rfl rfl rfl rfl
  have htrailing : Respelling "\\LIB/.//strasse.dll" "\\LIB/.//strasse.dll/\\" :=
    .trailing "/\\".toList (by decide) (List.all_eq_true.mp (by decide)) rfl
  have hspelling : Relation.EqvGen Respelling "/Lib/Straße.dll" "\\LIB/.//strasse.dll/\\" :=
    .trans _ _ _ (.rel _ _ hfolded) <| .trans _ _ _ (.rel _ _ hrecased) <|
      .trans _ _ _ (.rel _ _ hslanted) <| .trans _ _ _ (.rel _ _ hdoubled) <|
        .trans _ _ _ (.rel _ _ hdotted) (.rel _ _ htrailing)
  have hkey : referenceKey "/Lib/Straße.dll" = "/lib/strasse.dll" := by decide +kernel
  obtain ⟨-, -, hkeys⟩ := referenceKey_normalForm "/Lib/Straße.dll"
  exact ⟨hspelling, (hkeys _ hspelling).trans hkey⟩

end FSharpFlags
