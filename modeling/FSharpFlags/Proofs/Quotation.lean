import FSharpFlags.Flags.Extra

/-!
# Extra flags and quotations

The scanner of the extra flags goes through the text once and remembers only where it stands. What
it computes can be said without it: mark every character with whether a quotation is open before
it, break the text at the blanks outside quotations, and drop the quotation marks from the runs in
between. An empty quotation is a run of its own, since its marks are characters of the run.

The scanner refuses two kinds of text, those whose last quotation stays open and those with a
blank outside quotations that is none of the five separators. Both are seen from the marked text
as well, and they are the only ones that are split at every blank.
-/

namespace FSharpFlags

namespace ExtraFlags

/-! ## The marked text -/

/-- Whether a quotation is open after the characters: the number of marks is odd. -/
def isOpenAfter (cs : List Char) : Bool := cs.count '"' % 2 = 1

/-- The characters, each with whether a quotation is open before it. -/
def placed (before : List Char) : List Char → List (Char × Bool)
  | [] => []
  | c :: rest => (c, isOpenAfter before) :: placed (before ++ [c]) rest

/-- Whether a character separates two runs: it is a blank outside quotations. -/
def isBreak (m : Char × Bool) : Bool := !m.2 && Text.isBlank m.1

/-- The stretches of a text from one break to the next, empty ones included. -/
def stretches (before cs : List Char) : List (List (Char × Bool)) :=
  (placed before cs).splitOnP isBreak

/-- The characters of a run without the quotation marks. -/
def unquoted (run : List (Char × Bool)) : List Char := (run.map Prod.fst).filter (· ≠ '"')

/-- The arguments that stretches stand for; an empty stretch stands for none. -/
def runsOf (pieces : List (List (Char × Bool))) : List (List Char) :=
  (pieces.filter fun run ↦ !run.isEmpty).map unquoted

/-- The maximal runs without a break, each without its quotation marks. -/
def runs (cs : List Char) : List (List Char) := runsOf (stretches [] cs)

/-- Whether a text can be scanned after the given characters. -/
structure Scans (before cs : List Char) : Prop where
  /-- Every quotation is closed. -/
  closed : (before ++ cs).count '"' % 2 = 0
  /-- A blank outside quotations is one of the separators. -/
  separated : ∀ m ∈ placed before cs, isBreak m = true → isSeparator m.1 = true

theorem isOpenAfter_concat (before : List Char) (c : Char) :
    isOpenAfter (before ++ [c])
      = if c = '"' then !isOpenAfter before else isOpenAfter before := by
  unfold isOpenAfter
  rw [List.count_append]
  by_cases hc : c = '"'
  · rw [if_pos hc, hc, List.count_singleton_self, Bool.eq_iff_iff]
    simp only [Bool.not_eq_true', decide_eq_true_eq, decide_eq_false_iff_not]
    omega
  · have hnone : [c].count '"' = 0 := List.count_eq_zero_of_not_mem (by simpa using Ne.symm hc)
    rw [if_neg hc, hnone, Nat.add_zero]

theorem scans_nil_iff (before : List Char) : Scans before [] ↔ isOpenAfter before = false := by
  have hparity : isOpenAfter before = false ↔ before.count '"' % 2 = 0 := by
    rw [isOpenAfter, decide_eq_false_iff_not]
    omega
  rw [hparity]
  constructor
  · intro h
    simpa using h.closed
  · intro h
    exact ⟨by simpa using h, fun m hm ↦ nomatch hm⟩

theorem scans_cons_iff (before : List Char) (c : Char) (rest : List Char) :
    Scans before (c :: rest)
      ↔ (isBreak (c, isOpenAfter before) = true → isSeparator c = true)
        ∧ Scans (before ++ [c]) rest := by
  have hjoin : before ++ c :: rest = before ++ [c] ++ rest := List.append_cons before c rest
  constructor
  · rintro ⟨hclosed, hseparated⟩
    refine ⟨hseparated _ List.mem_cons_self, hjoin ▸ hclosed, fun m hm ↦ ?_⟩
    exact hseparated m (List.mem_cons_of_mem _ hm)
  · rintro ⟨hfirst, hclosed, hseparated⟩
    exact ⟨hjoin ▸ hclosed, List.forall_mem_cons.mpr ⟨hfirst, hseparated⟩⟩

theorem stretches_cons (before : List Char) (c : Char) (rest : List Char) :
    stretches before (c :: rest)
      = if isBreak (c, isOpenAfter before) then [] :: stretches (before ++ [c]) rest
        else (stretches (before ++ [c]) rest).modifyHead ((c, isOpenAfter before) :: ·) := by
  rw [stretches, placed, List.splitOnP_cons_eq_if_modifyHead]
  rfl

theorem exists_stretches (before cs : List Char) :
    ∃ first more, stretches before cs = first :: more :=
  List.exists_cons_of_ne_nil (List.splitOnP_ne_nil _ _)

/-! ## Steps of the scanner -/

namespace Standing

/-- Whether the scanner stands between quotation marks. -/
def isInside : Standing → Bool
  | .inside _ => true
  | _ => false

/-- Where a quotation mark leads. -/
def flip : Standing → Standing
  | .between => .inside []
  | .outside argument => .inside argument
  | .inside argument => .outside argument

/-- Where a character that belongs to an argument leads. -/
def push (c : Char) : Standing → Standing
  | .between => .outside [c]
  | .outside argument => .outside (c :: argument)
  | .inside argument => .inside (c :: argument)

/-- The argument that ends here, if the scanner is in one. -/
def ended : Standing → List (List Char)
  | .between => []
  | .outside argument | .inside argument => [argument.reverse]

/-- What the scanner makes of the stretches that lie before it, the first of which continues the
argument it is in. -/
def collect (pieces : List (List (Char × Bool))) : Standing → List (List Char)
  | .between => runsOf pieces
  | .outside argument | .inside argument =>
    (argument.reverse ++ unquoted (pieces.headD [])) :: runsOf pieces.tail

end Standing

variable {standing : Standing} {before cs rest : List Char} {c : Char}

theorem scan_mark : scan standing ('"' :: rest) = scan standing.flip rest := by
  cases standing <;> rfl

theorem scan_inside (hstanding : standing.isInside = true) (hc : c ≠ '"') :
    scan standing (c :: rest) = scan (standing.push c) rest := by
  cases standing with
  | inside argument => rw [scan, if_neg hc, Standing.push]
  | between => cases hstanding
  | outside argument => cases hstanding

theorem scan_separator (hstanding : standing.isInside = false) (hc : isSeparator c = true) :
    scan standing (c :: rest) = (scan .between rest).map (standing.ended ++ ·) := by
  have hmark : c ≠ '"' := by
    rintro rfl
    cases hc
  cases standing with
  | between =>
    rw [scan, if_neg hmark, if_pos hc]
    simp [Standing.ended]
  | outside argument =>
    rw [scan, if_neg hmark, if_pos hc]
    rfl
  | inside argument => cases hstanding

theorem scan_otherBlank (hstanding : standing.isInside = false) (hmark : c ≠ '"')
    (hseparator : isSeparator c = false) (hblank : Text.isBlank c = true) :
    scan standing (c :: rest) = none := by
  cases standing with
  | between => rw [scan, if_neg hmark, if_neg (by simp [hseparator]), if_pos hblank]
  | outside argument => rw [scan, if_neg hmark, if_neg (by simp [hseparator]), if_pos hblank]
  | inside argument => cases hstanding

theorem isBlank_of_isSeparator (h : isSeparator c = true) : Text.isBlank c = true := by
  have hcases : (((c = ' ' ∨ c = '\t') ∨ c = '\x0c') ∨ c = '\r') ∨ c = '\n' := by
    simpa [isSeparator] using h
  rcases hcases with (((rfl | rfl) | rfl) | rfl) | rfl <;> decide

theorem scan_plain (hstanding : standing.isInside = false) (hmark : c ≠ '"')
    (hblank : Text.isBlank c = false) :
    scan standing (c :: rest) = scan (standing.push c) rest := by
  have hseparator : ¬isSeparator c = true := by
    intro hc
    rw [isBlank_of_isSeparator hc] at hblank
    cases hblank
  have hblank' : ¬Text.isBlank c = true := by
    rw [hblank]
    exact Bool.false_ne_true
  cases standing with
  | between => rw [scan, if_neg hmark, if_neg hseparator, if_neg hblank', Standing.push]
  | outside argument => rw [scan, if_neg hmark, if_neg hseparator, if_neg hblank', Standing.push]
  | inside argument => cases hstanding

/-! ## The scanner finds the runs -/

theorem unquoted_cons (hc : c ≠ '"') (isOpen : Bool) (run : List (Char × Bool)) :
    unquoted ((c, isOpen) :: run) = c :: unquoted run := by
  rw [unquoted, List.map_cons, List.filter_cons_of_pos (by simpa using hc), unquoted]

theorem collect_flip (isOpen : Bool) (first : List (Char × Bool))
    (more : List (List (Char × Bool))) :
    standing.flip.collect (first :: more)
      = standing.collect ((('"', isOpen) :: first) :: more) := by
  cases standing <;> rfl

theorem collect_push (hc : c ≠ '"') (isOpen : Bool) (first : List (Char × Bool))
    (more : List (List (Char × Bool))) :
    (standing.push c).collect (first :: more)
      = standing.collect (((c, isOpen) :: first) :: more) := by
  have hfirst : unquoted ((c, isOpen) :: first) = c :: unquoted first :=
    unquoted_cons hc isOpen first
  cases standing with
  | between => simp [Standing.push, Standing.collect, runsOf, hfirst]
  | outside argument => simp [Standing.push, Standing.collect, hfirst]
  | inside argument => simp [Standing.push, Standing.collect, hfirst]

theorem collect_break (pieces : List (List (Char × Bool))) :
    standing.collect ([] :: pieces) = standing.ended ++ runsOf pieces := by
  cases standing <;> simp [Standing.collect, Standing.ended, runsOf, unquoted]

/-- **The scanner** finds the runs of what lies before it, and nothing in what cannot be scanned,
if it knows whether a quotation is open. -/
theorem scan_eq (hstanding : standing.isInside = isOpenAfter before) :
    (Scans before cs → scan standing cs = some (standing.collect (stretches before cs)))
      ∧ (¬Scans before cs → scan standing cs = none) := by
  induction cs generalizing standing before with
  | nil =>
    rw [scans_nil_iff, ← hstanding]
    cases standing with
    | between => exact ⟨fun _ ↦ rfl, fun h ↦ absurd rfl h⟩
    | outside argument =>
      refine ⟨fun _ ↦ ?_, fun h ↦ absurd rfl h⟩
      exact congrArg (fun a ↦ some [a]) (List.append_nil _).symm
    | inside argument => exact ⟨fun h ↦ (nomatch h), fun _ ↦ rfl⟩
  | cons c rest ih =>
    obtain ⟨first, more, hstretches⟩ := exists_stretches (before ++ [c]) rest
    rw [scans_cons_iff, stretches_cons]
    have hafter := isOpenAfter_concat before c
    by_cases hmark : c = '"'
    · -- A mark changes what is open and belongs to no argument.
      subst hmark
      have hbreak : isBreak ('"', isOpenAfter before) = false := by
        rw [isBreak, show Text.isBlank '"' = false by decide, Bool.and_false]
      have hflip : standing.flip.isInside = isOpenAfter (before ++ ['"']) := by
        rw [hafter, if_pos rfl, ← hstanding]
        cases standing <;> rfl
      rw [scan_mark, hbreak, if_neg Bool.false_ne_true, hstretches, List.modifyHead_cons,
        ← collect_flip, ← hstretches]
      simpa using ih hflip
    · rw [if_neg hmark] at hafter
      have hpush : (standing.push c).isInside = isOpenAfter (before ++ [c]) := by
        rw [hafter, ← hstanding]
        cases standing <;> rfl
      by_cases hbreak : isBreak (c, isOpenAfter before) = true
      · -- A break ends the argument, if there is one; the next stretch starts between arguments.
        have houtside : standing.isInside = false ∧ Text.isBlank c = true := by
          rw [hstanding]
          simpa [isBreak] using hbreak
        have hbetween : Standing.between.isInside = isOpenAfter (before ++ [c]) := by
          rw [hafter, ← hstanding, houtside.1]
          rfl
        by_cases hseparator : isSeparator c = true
        · obtain ⟨hruns, hnone⟩ := ih hbetween
          rw [scan_separator houtside.1 hseparator, if_pos hbreak, collect_break]
          exact ⟨fun h ↦ by rw [hruns h.2]; rfl,
            fun h ↦ by rw [hnone fun hrest ↦ h ⟨fun _ ↦ hseparator, hrest⟩]; rfl⟩
        · refine ⟨fun h ↦ absurd (h.1 hbreak) hseparator, fun _ ↦ ?_⟩
          exact scan_otherBlank houtside.1 hmark (Bool.eq_false_iff.mpr hseparator) houtside.2
      · -- Everything else is a character of the argument, in a quotation or not.
        have hscan : scan standing (c :: rest) = scan (standing.push c) rest := by
          cases hinside : standing.isInside with
          | true => exact scan_inside hinside hmark
          | false =>
            refine scan_plain hinside hmark ?_
            rw [← hstanding, hinside] at hbreak
            simpa [isBreak] using hbreak
        rw [hscan, if_neg hbreak, hstretches, List.modifyHead_cons, ← collect_push hmark,
          ← hstretches]
        simpa [hbreak] using ih hpush

theorem arguments?_of_scans (h : Scans [] cs) : arguments? cs = some (runs cs) :=
  (scan_eq rfl).1 h

theorem arguments?_of_not_scans (h : ¬Scans [] cs) : arguments? cs = none :=
  (scan_eq rfl).2 h

/-! ## Writing arguments -/

/-- An argument between quotation marks. -/
def enclosed (argument : List Char) : List Char := '"' :: (argument ++ ['"'])

theorem scan_inside_append {w : List Char} (hw : '"' ∉ w) (argument rest : List Char) :
    scan (.inside argument) (w ++ '"' :: rest) = scan (.outside (w.reverse ++ argument)) rest := by
  induction w generalizing argument with
  | nil => rfl
  | cons c w ih =>
    rw [List.mem_cons, not_or] at hw
    rw [List.cons_append, scan_inside rfl (Ne.symm hw.1), Standing.push, ih hw.2,
      List.reverse_cons, List.append_assoc, List.singleton_append]

/-- Whatever follows an enclosed argument is scanned as what follows an argument. -/
theorem scan_enclosed_append {w : List Char} (hw : '"' ∉ w) (rest : List Char) :
    scan .between (enclosed w ++ rest) = scan (.outside w.reverse) rest := by
  rw [enclosed, List.cons_append, scan_mark, List.append_assoc, List.singleton_append,
    Standing.flip, scan_inside_append hw, List.append_nil]

theorem arguments?_intercalate_enclosed {arguments : List (List Char)}
    (h : ∀ w ∈ arguments, '"' ∉ w) :
    arguments? ([' '].intercalate (arguments.map enclosed)) = some arguments := by
  rw [arguments?]
  induction arguments with
  | nil => rfl
  | cons w more ih =>
    obtain ⟨hw, hmore⟩ := List.forall_mem_cons.mp h
    have hscan := scan_enclosed_append hw
    cases more with
    | nil =>
      have hend := hscan []
      rw [List.append_nil] at hend
      rw [List.map_singleton, List.intercalate_singleton, hend, scan, List.reverse_reverse]
    | cons w' more =>
      rw [List.map_cons, List.map_cons, List.intercalate_cons_cons, List.append_assoc,
        List.singleton_append, hscan, scan_separator rfl rfl, ← List.map_cons, ih hmore]
      rw [Option.map_some, Standing.ended, List.reverse_reverse, List.singleton_append]

end ExtraFlags

theorem Text.words_of_isAllBlank {cs : List Char} (h : isAllBlank cs = true) : words cs = [] := by
  have hblank : ∀ c ∈ cs, isBlank c = true := List.all_eq_true.mp h
  rw [words, List.filter_eq_nil_iff]
  induction cs with
  | nil => simp
  | cons c rest ih =>
    obtain ⟨hc, hrest⟩ := List.forall_mem_cons.mp hblank
    rw [List.splitOnP_cons_eq_if_modifyHead, if_pos hc]
    exact List.forall_mem_cons.mpr ⟨by simp, ih (List.all_eq_true.mpr hrest) hrest⟩

open ExtraFlags (Scans runs)

theorem outcome_splitExtraFlags_of_arguments? {text : String} {arguments : List (List Char)}
    (h : ExtraFlags.arguments? text.toList = some arguments) :
    (splitExtraFlags text).outcome = .ok (arguments.map String.ofList) := by
  rw [splitExtraFlags, h]
  rfl

theorem outcome_splitExtraFlags_of_not_scans {text : String} (h : ¬Scans [] text.toList) :
    (splitExtraFlags text).outcome = .ok ((Text.words text.toList).map String.ofList) := by
  rw [splitExtraFlags, ExtraFlags.arguments?_of_not_scans h]
  dsimp only
  split
  · next hblank =>
    rw [Text.words_of_isAllBlank hblank]
    rfl
  · rfl

/-- **Extra flags** are the runs between blanks outside quotations, without the marks. A text with
an open quotation, or with a blank outside quotations that does not separate arguments, is split
at every blank and keeps its marks. So enclosing arguments in marks and joining them with spaces
is undone by splitting. -/
theorem splitExtraFlags_eq_runs :
    (∀ text : String,
        (Scans [] text.toList →
          (splitExtraFlags text).outcome = .ok ((runs text.toList).map String.ofList))
        ∧ (¬Scans [] text.toList →
          (splitExtraFlags text).outcome = .ok ((Text.words text.toList).map String.ofList)))
      ∧ ∀ arguments : List String, (∀ a ∈ arguments, '"' ∉ a.toList) →
          (splitExtraFlags (" ".intercalate (arguments.map fun a ↦ "\"" ++ a ++ "\""))).outcome
            = .ok arguments := by
  refine ⟨fun text ↦ ⟨fun h ↦ ?_, outcome_splitExtraFlags_of_not_scans⟩, fun arguments h ↦ ?_⟩
  · exact outcome_splitExtraFlags_of_arguments? (ExtraFlags.arguments?_of_scans h)
  · have htext : (" ".intercalate (arguments.map fun a ↦ "\"" ++ a ++ "\"")).toList
        = [' '].intercalate ((arguments.map String.toList).map ExtraFlags.enclosed) := by
      rw [String.toList_intercalate, List.map_map, List.map_map]
      simp only [Function.comp_def, String.toList_append]
      rfl
    have hmarks : ∀ w ∈ arguments.map String.toList, '"' ∉ w := by simpa using h
    have harguments := ExtraFlags.arguments?_intercalate_enclosed hmarks
    rw [← htext] at harguments
    rw [outcome_splitExtraFlags_of_arguments? harguments, List.map_map]
    simp [Function.comp_def]

/-- A blank within marks stays, an empty quotation is an argument, and a mark that is never closed
is left in its place. -/
theorem splitExtraFlags_eq_runs_quoted :
    (splitExtraFlags "--doc:\"a b\" \"\"").outcome = .ok ["--doc:a b", ""]
      ∧ (splitExtraFlags "--doc:\"a b").outcome = .ok ["--doc:\"a", "b"]
      ∧ (splitExtraFlags (" ".intercalate (["a b", ""].map fun a ↦ "\"" ++ a ++ "\""))).outcome
          = .ok ["a b", ""] := by
  have hscans : Scans [] "--doc:\"a b\" \"\"".toList := ⟨by decide +kernel, by decide +kernel⟩
  have hruns : (runs "--doc:\"a b\" \"\"".toList).map String.ofList = ["--doc:a b", ""] := by
    decide +kernel
  have hopen : ¬Scans [] "--doc:\"a b".toList := fun h ↦ absurd h.closed (by decide +kernel)
  have hwords : (Text.words "--doc:\"a b".toList).map String.ofList = ["--doc:\"a", "b"] := by
    decide +kernel
  exact ⟨hruns ▸ (splitExtraFlags_eq_runs.1 _).1 hscans,
    hwords ▸ (splitExtraFlags_eq_runs.1 _).2 hopen,
    splitExtraFlags_eq_runs.2 ["a b", ""] (by decide +kernel)⟩

end FSharpFlags
