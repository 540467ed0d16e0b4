import FSharpFlags.Proofs.Pieces
import FSharpFlags.Proofs.Quotation

/-!
# Quotations in the extra flags

A text whose quotation marks come in pairs is a sequence of quotations with unquoted text between
them. Splitting honours the quotations when no argument has a mark left in it and each quotation
lies within one argument, at the place where it stands in the text: what stands before it in its
argument and in the arguments in front is made of the letters of the text before it, and likewise
for what comes after it.

Splitting the marked text at its breaks gives this at once, since a quotation has no break in it.
Pairs are not enough, though. A blank outside quotations that is none of the five separators sends
the text to the plain split at every blank, which knows nothing of marks. So the quotations of a
text with paired marks are honoured just when there are none or every break is a separator.
-/

namespace FSharpFlags

/-! ## Words -/

theorem Text.mem_of_mem_words {cs w : List Char} {c : Char} (hw : w ∈ words cs) (hc : c ∈ w) :
    c ∈ cs := by
  have hmem : c ∈ (cs.splitOnP isBlank).flatten :=
    List.mem_flatten.mpr ⟨w, (List.mem_filter.mp hw).1, hc⟩
  rw [flatten_splitOnP] at hmem
  exact (List.mem_filter.mp hmem).1

theorem Text.exists_mem_words {cs : List Char} {c : Char} (hc : c ∈ cs)
    (hblank : isBlank c = false) : ∃ w ∈ words cs, c ∈ w := by
  have hmem : c ∈ (cs.splitOnP isBlank).flatten := by
    rw [flatten_splitOnP, List.mem_filter, hblank]
    exact ⟨hc, rfl⟩
  obtain ⟨w, hw, hcw⟩ := List.mem_flatten.mp hmem
  refine ⟨w, List.mem_filter.mpr ⟨hw, ?_⟩, hcw⟩
  simp [List.ne_nil_of_mem hcw]

namespace ExtraFlags

variable {before after cs span : List Char}

/-! ## Quotations -/

/-- A quotation of a text: what stands between a mark that opens one and the next mark. -/
structure IsQuotation (cs before span after : List Char) : Prop where
  /-- Where the quotation stands. -/
  text : cs = before ++ ('"' :: (span ++ ['"']) ++ after)
  /-- The first mark opens it: the marks before it come in pairs. -/
  opens : isOpenAfter before = false
  /-- There is no mark in between. -/
  unmarked : '"' ∉ span

/-- What arguments are made of in a text after the given characters: neither marks nor breaks. -/
def letters (before cs : List Char) : List Char :=
  unquoted ((placed before cs).filter fun m ↦ !isBreak m)

/-- Whether a quotation lies within one of the arguments, at its place in the text. -/
def LiesWithin (arguments : List (List Char)) (before span after : List Char) : Prop :=
  ∃ front left right back, arguments = front ++ (left ++ (span ++ right)) :: back
    ∧ front.flatten ++ left = letters [] before ∧ right ++ back.flatten = letters [] after

/-- Whether the arguments of a text honour its quotations. -/
structure Honours (arguments : List (List Char)) (cs : List Char) : Prop where
  /-- No argument has a mark in it. -/
  unmarked : ∀ argument ∈ arguments, '"' ∉ argument
  /-- No quotation is divided between two arguments. -/
  undivided : ∀ before span after, IsQuotation cs before span after →
    LiesWithin arguments before span after

/-- Whether every blank outside quotations is one of the separators. -/
def BreaksAtSeparators (cs : List Char) : Prop :=
  ∀ m ∈ placed [] cs, isBreak m = true → isSeparator m.1 = true

theorem scans_iff : Scans [] cs ↔ cs.count '"' % 2 = 0 ∧ BreaksAtSeparators cs :=
  ⟨fun h ↦ ⟨h.closed, h.separated⟩, fun h ↦ ⟨h.1, h.2⟩⟩

theorem placed_append (before xs ys : List Char) :
    placed before (xs ++ ys) = placed before xs ++ placed (before ++ xs) ys := by
  induction xs generalizing before with
  | nil => rw [List.append_nil]; rfl
  | cons c xs ih =>
    rw [List.cons_append, placed, placed, ih, List.cons_append, List.append_assoc,
      List.singleton_append]

/-- What stands before a text matters only through whether it leaves a quotation open. -/
theorem placed_congr {before' : List Char} (h : isOpenAfter before = isOpenAfter before')
    (cs : List Char) : placed before cs = placed before' cs := by
  induction cs generalizing before before' with
  | nil => rfl
  | cons c cs ih =>
    have hnext : isOpenAfter (before ++ [c]) = isOpenAfter (before' ++ [c]) := by
      rw [isOpenAfter_concat, isOpenAfter_concat, h]
    rw [placed, placed, h, ih hnext]

/-- Between marks, everything is quoted. -/
theorem placed_of_isOpenAfter (h : isOpenAfter before = true) (hspan : '"' ∉ span) :
    placed before span = span.map fun c ↦ (c, true) := by
  induction span generalizing before with
  | nil => rfl
  | cons c span ih =>
    rw [List.mem_cons, not_or] at hspan
    have hnext : isOpenAfter (before ++ [c]) = true := by
      rw [isOpenAfter_concat, if_neg (Ne.symm hspan.1), h]
    rw [placed, h, ih hnext hspan.2, List.map_cons]

theorem isOpenAfter_append (hspan : '"' ∉ span) (before : List Char) :
    isOpenAfter (before ++ span) = isOpenAfter before := by
  rw [isOpenAfter, isOpenAfter, List.count_append, List.count_eq_zero_of_not_mem hspan,
    Nat.add_zero]

namespace IsQuotation

/-- **The marked text of a text with a quotation** is that of what stands before it, that of the
quotation and that of what comes after it, which is marked as if it stood alone. -/
theorem placed_eq (h : IsQuotation cs before span after) :
    placed [] cs = placed [] before
      ++ (('"', false) :: (span.map (fun c ↦ (c, true)) ++ [('"', true)]) ++ placed [] after) := by
  have hopen : isOpenAfter (before ++ ['"']) = true := by
    rw [isOpenAfter_concat, if_pos rfl, h.opens]
    rfl
  have hinside : isOpenAfter (before ++ ['"'] ++ span) = true := by
    rw [isOpenAfter_append h.unmarked, hopen]
  have hclosed : isOpenAfter (before ++ ['"'] ++ span ++ ['"']) = isOpenAfter [] := by
    rw [isOpenAfter_concat, if_pos rfl, hinside]
    rfl
  have hjoin : before ++ '"' :: (span ++ ['"']) = before ++ ['"'] ++ span ++ ['"'] := by simp
  rw [h.text, placed_append, List.nil_append, placed_append, hjoin, placed_congr hclosed, placed,
    h.opens, placed_append, placed_of_isOpenAfter hopen h.unmarked, placed, hinside]
  rfl

/-- A quotation has no break in it. -/
theorem isBreak_eq_false (span : List Char) :
    ∀ m ∈ ('"', false) :: (span.map (fun c ↦ (c, true)) ++ [('"', true)]), isBreak m = false := by
  intro m hm
  have hcases : m = ('"', false) ∨ m.2 = true := by
    simp only [List.mem_cons, List.mem_append, List.mem_map, List.not_mem_nil, or_false] at hm
    rcases hm with rfl | ⟨c, -, rfl⟩ | rfl
    · exact .inl rfl
    · exact .inr rfl
    · exact .inr rfl
  rcases hcases with rfl | hquoted
  · decide
  · rw [isBreak, hquoted]
    rfl

end IsQuotation

/-! ## The runs honour the quotations -/

theorem unquoted_append (xs ys : List (Char × Bool)) :
    unquoted (xs ++ ys) = unquoted xs ++ unquoted ys := by
  rw [unquoted, List.map_append, List.filter_append, unquoted, unquoted]

/-- The characters of a quotation are what stands between its marks. -/
theorem unquoted_quotation (hspan : '"' ∉ span) :
    unquoted (('"', false) :: (span.map (fun c ↦ (c, true)) ++ [('"', true)])) = span := by
  have hkept : span.filter (· ≠ '"') = span := by
    refine List.filter_eq_self.mpr fun c hc ↦ ?_
    rw [decide_eq_true_eq]
    rintro rfl
    exact hspan hc
  have hmap : (span.map fun c ↦ (c, true)).map Prod.fst = span := by
    rw [List.map_map]
    exact List.map_id span
  rw [unquoted, List.map_cons, List.map_append, hmap, List.filter_cons_of_neg (by simp),
    List.filter_append, hkept]
  exact List.append_nil span

theorem flatten_runsOf (pieces : List (List (Char × Bool))) :
    (runsOf pieces).flatten = unquoted pieces.flatten := by
  induction pieces with
  | nil => rfl
  | cons piece pieces ih =>
    rw [List.flatten_cons, unquoted_append, ← ih]
    cases piece with
    | nil => rfl
    | cons m piece => rfl

theorem not_mem_of_mem_runs {argument : List Char} (h : argument ∈ runs cs) : '"' ∉ argument := by
  obtain ⟨run, -, rfl⟩ := List.mem_map.mp h
  simp [unquoted]

/-- **A quotation lies within one run.** -/
theorem liesWithin_runs (h : IsQuotation cs before span after) :
    LiesWithin (runs cs) before span after := by
  obtain ⟨front, last, first, back, hbefore, hafter, hsplit⟩ :=
    exists_splitOnP_append_append (IsQuotation.isBreak_eq_false span) (placed [] before)
      (placed [] after)
  rw [← h.placed_eq] at hsplit
  refine ⟨runsOf front, unquoted last, unquoted first, runsOf back, ?_, ?_, ?_⟩
  · -- The stretch with the quotation holds its marks, so it is never left out as empty.
    have hstretch : unquoted (last
        ++ ('"', false) :: (span.map (fun c ↦ (c, true)) ++ [('"', true)]) ++ first)
        = unquoted last ++ (span ++ unquoted first) := by
      rw [unquoted_append, unquoted_append, unquoted_quotation h.unmarked, List.append_assoc]
    rw [runs, stretches, hsplit, runsOf, List.filter_append, List.map_append,
      List.filter_cons_of_pos (by simp), List.map_cons, ← List.append_assoc last, hstretch]
    rfl
  · rw [flatten_runsOf, ← unquoted_append, letters, ← flatten_splitOnP, hbefore,
      List.flatten_concat]
  · rw [flatten_runsOf, ← unquoted_append, letters, ← flatten_splitOnP, hafter, List.flatten_cons]

theorem honours_runs (cs : List Char) : Honours (runs cs) cs where
  unmarked _ h := not_mem_of_mem_runs h
  undivided _ _ _ h := liesWithin_runs h

/-- The plain split honours the quotations of a text only if there are none. -/
theorem honours_words_iff (cs : List Char) : Honours (Text.words cs) cs ↔ '"' ∉ cs := by
  constructor
  · intro h hmark
    obtain ⟨w, hw, hmem⟩ := Text.exists_mem_words hmark (by decide)
    exact h.unmarked w hw hmem
  · intro h
    refine ⟨fun w hw hmem ↦ h ?_, fun before span after hquotation ↦ absurd ?_ h⟩
    · exact Text.mem_of_mem_words hw hmem
    · rw [hquotation.text]
      simp

end ExtraFlags

open ExtraFlags (Scans Honours BreaksAtSeparators)

theorem unscannedFlags_mem_events_iff (text : String) :
    .unscannedFlags text ∈ (splitExtraFlags text).events
      ↔ Text.isAllBlank text.toList = false ∧ ¬Scans [] text.toList := by
  rw [splitExtraFlags]
  by_cases hscans : Scans [] text.toList
  · rw [ExtraFlags.arguments?_of_scans hscans]
    exact iff_of_false List.not_mem_nil fun h ↦ h.2 hscans
  · rw [ExtraFlags.arguments?_of_not_scans hscans, and_iff_left hscans]
    dsimp only
    split_ifs with hblank
    · exact iff_of_false List.not_mem_nil (by simp [hblank])
    · exact iff_of_true List.mem_cons_self (Bool.eq_false_iff.mpr hblank)

/-- **Quotations are honoured** in a text whose marks come in pairs if there are no marks or every
blank outside quotations separates arguments, and only then. The plain split is noted, for a text
that is not all blank, when a quotation is left open or some blank outside quotations does not
separate arguments. -/
theorem splitExtraFlags_honours_iff (text : String) :
    (text.toList.count '"' % 2 = 0 →
        ∃ arguments, (splitExtraFlags text).outcome = .ok arguments
          ∧ (Honours (arguments.map String.toList) text.toList
            ↔ '"' ∉ text.toList ∨ BreaksAtSeparators text.toList))
      ∧ (.unscannedFlags text ∈ (splitExtraFlags text).events
        ↔ Text.isAllBlank text.toList = false
          ∧ (text.toList.count '"' % 2 = 1 ∨ ¬BreaksAtSeparators text.toList)) := by
  have hletters : ∀ arguments : List (List Char),
      (arguments.map String.ofList).map String.toList = arguments := by
    intro arguments
    rw [List.map_map, Function.comp_def]
    simp only [String.toList_ofList, List.map_id']
  constructor
  · intro hpairs
    by_cases hbreaks : BreaksAtSeparators text.toList
    · have hscans := ExtraFlags.scans_iff.mpr ⟨hpairs, hbreaks⟩
      refine ⟨_, outcome_splitExtraFlags_of_arguments? (ExtraFlags.arguments?_of_scans hscans), ?_⟩
      rw [hletters]
      exact iff_of_true (ExtraFlags.honours_runs _) (.inr hbreaks)
    · have hscans : ¬Scans [] text.toList := fun h ↦ hbreaks (ExtraFlags.scans_iff.mp h).2
      refine ⟨_, outcome_splitExtraFlags_of_not_scans hscans, ?_⟩
      rw [hletters, or_iff_left hbreaks]
      exact ExtraFlags.honours_words_iff _
  · have hodd : ¬text.toList.count '"' % 2 = 0 ↔ text.toList.count '"' % 2 = 1 := by omega
    rw [unscannedFlags_mem_events_iff, ExtraFlags.scans_iff, not_and_or, hodd]

/-- Quotations that are glued to other characters or to each other are honoured. -/
theorem splitExtraFlags_honours_glued :
    ∃ arguments, (splitExtraFlags "--doc:\"a b\" \"c d\"\"e\"").outcome = .ok arguments
      ∧ Honours (arguments.map String.toList) "--doc:\"a b\" \"c d\"\"e\"".toList := by
  obtain ⟨arguments, houtcome, hhonours⟩ :=
    (splitExtraFlags_honours_iff "--doc:\"a b\" \"c d\"\"e\"").1 (by decide +kernel)
  exact ⟨arguments, houtcome, hhonours.mpr (.inr (by unfold BreaksAtSeparators; decide +kernel))⟩

/-- One no-break space outside quotations takes every quotation of the text apart, although the
marks come in pairs. -/
theorem splitExtraFlags_noBreakSpace :
    "--doc:\"a b\"\u00a0-g".toList.count '"' % 2 = 0
      ∧ (splitExtraFlags "--doc:\"a b\"\u00a0-g").outcome = .ok ["--doc:\"a", "b\"", "-g"]
      ∧ ¬Honours (["--doc:\"a", "b\"", "-g"].map String.toList) "--doc:\"a b\"\u00a0-g".toList
      ∧ .unscannedFlags "--doc:\"a b\"\u00a0-g"
        ∈ (splitExtraFlags "--doc:\"a b\"\u00a0-g").events := by
  refine ⟨by decide +kernel, by decide +kernel, fun h ↦ ?_, ?_⟩
  · exact h.unmarked "b\"".toList (by decide) (by decide)
  · decide +kernel

end FSharpFlags
