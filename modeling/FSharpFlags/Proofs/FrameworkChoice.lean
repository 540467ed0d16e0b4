import FSharpFlags.Attempt
import FSharpFlags.Framework.Selection
import FSharpFlags.Proofs.Traversal
import FSharpFlags.Proofs.VersionOrder

/-!
# The choice of a framework

The default framework of a runtime is found in one walk over its list with the best candidate so
far. Versions are compared on their common beginning only, which is a strict order but not a weak
one: `4` can be told neither from `4.5` nor from `4.0`, which can be told apart. In which sense the
walk ends at a greatest version has to be said with care.

The walk starts from the first entry of the list at version zero, whatever that entry is. What it
keeps from then on is that no candidate met so far beats the best one, and that the best one, unless
it is still the start, is the first candidate of its version. The first half survives a change of
the best candidate because the comparison is transitive; the second one holds at a change because a
candidate of the same version would have beaten the former best one already. A candidate whose first
number is positive beats the start.

The walk ends early for one reason besides the answers of the host: the version of an installed
desktop framework with a number of too many digits.
-/

namespace FSharpFlags

namespace Version

/-! ## Reading -/

/-- Whether no number of a version has more digits than are read. -/
def IsReadable (text : String) : Prop :=
  ∀ segment ∈ segments text.toList, Numeral.isNumeral (Text.strip segment) = true →
    (Text.strip segment).length ≤ Numeral.digitLimit

theorem exists_readSegment_eq_ok_iff {segment : List Char} :
    (∃ n, readSegment segment = .ok n) ↔
      (Numeral.isNumeral (Text.strip segment) = true →
        (Text.strip segment).length ≤ Numeral.digitLimit) := by
  rw [readSegment]
  split_ifs with hnumeral
  · rw [Numeral.read]
    split_ifs with hlong
    · simp [hnumeral, hlong]
    · simp [hnumeral, not_lt.mp hlong]
  · simp [hnumeral]

theorem exists_parse_eq_ok_iff {text : String} :
    (∃ v, parse text = .ok v) ↔ IsReadable text := by
  rw [parse, exists_mapM_eq_ok_iff, IsReadable]
  simp only [exists_readSegment_eq_ok_iff]

end Version

namespace TargetRuntime

open Version (prefers)

variable {runtime : TargetRuntime} {d : FrameworkDescriptor} {v w : Version}
  {best best' : Best} {seen candidates : List FrameworkDescriptor}

/-! ## One candidate -/

/-- Whether a framework takes part in the choice, with its version: it is an installed desktop
framework. -/
def Contends (runtime : TargetRuntime) (d : FrameworkDescriptor) (v : Version) : Prop :=
  runtime.isInstalled d = .ok true ∧ d.moniker.identifier = Moniker.desktop
    ∧ d.moniker.parsedVersion = .ok v

/-- Whether what the choice asks about a framework has an answer: whether it is installed and, if it
is a desktop framework then, which version it has. -/
def Answers (runtime : TargetRuntime) (d : FrameworkDescriptor) : Prop :=
  ∃ installed, runtime.isInstalled d = .ok installed
    ∧ (installed = true → d.moniker.identifier = Moniker.desktop →
      Version.IsReadable d.moniker.version)

theorem Contends.unique (h : runtime.Contends d v) (h' : runtime.Contends d w) : v = w :=
  Except.ok.inj (h.2.2.symm.trans h'.2.2)

theorem consider_of_contends (h : runtime.Contends d v) (best : Best) :
    consider runtime best d = .ok (if prefers v best.2 then (d, v) else best) := by
  obtain ⟨hinstalled, hdesktop, hversion⟩ := h
  rw [consider, hinstalled]
  show (if d.moniker.identifier = Moniker.desktop then _ else _) = _
  rw [if_pos hdesktop, hversion]
  show (if prefers v best.2 then _ else _) = _
  split <;> rfl

theorem consider_of_not_contends (h : ∀ v, ¬runtime.Contends d v)
    (hd : runtime.Answers d) (best : Best) : consider runtime best d = .ok best := by
  obtain ⟨installed, hinstalled, hreadable⟩ := hd
  rw [consider, hinstalled]
  cases installed with
  | false => rfl
  | true =>
    show (if d.moniker.identifier = Moniker.desktop then _ else _) = _
    refine if_neg fun hdesktop ↦ ?_
    obtain ⟨v, hv⟩ := Version.exists_parse_eq_ok_iff.mpr (hreadable rfl hdesktop)
    exact h v ⟨hinstalled, hdesktop, hv⟩

theorem answers_of_consider (h : consider runtime best d = .ok best') : runtime.Answers d := by
  obtain ⟨installed, hinstalled, h⟩ := bind_eq_ok_iff.mp h
  refine ⟨installed, hinstalled, ?_⟩
  rintro rfl hdesktop
  rw [if_pos rfl, if_pos hdesktop] at h
  obtain ⟨v, hv, -⟩ := bind_eq_ok_iff.mp h
  exact Version.exists_parse_eq_ok_iff.mp ⟨v, hv⟩

theorem exists_consider_eq_ok_iff (best : Best) :
    (∃ best', consider runtime best d = .ok best') ↔ runtime.Answers d := by
  refine ⟨fun ⟨best', h⟩ ↦ answers_of_consider h, fun h ↦ ?_⟩
  by_cases hcontends : ∃ v, runtime.Contends d v
  · obtain ⟨v, hv⟩ := hcontends
    exact ⟨_, consider_of_contends hv best⟩
  · exact ⟨_, consider_of_not_contends (not_exists.mp hcontends) h best⟩

/-- A candidate becomes the best one by beating it, and otherwise nothing changes. -/
theorem consider_cases (h : consider runtime best d = .ok best') :
    (∃ v, runtime.Contends d v ∧ prefers v best.2 = true ∧ best' = (d, v))
      ∨ (∀ v, runtime.Contends d v → prefers v best.2 = false) ∧ best' = best := by
  by_cases hcontends : ∃ v, runtime.Contends d v
  · obtain ⟨v, hv⟩ := hcontends
    rw [consider_of_contends hv] at h
    by_cases hprefers : prefers v best.2 = true
    · rw [if_pos hprefers] at h
      exact .inl ⟨v, hv, hprefers, (Except.ok.inj h).symm⟩
    · rw [if_neg hprefers] at h
      refine .inr ⟨fun w hw ↦ ?_, (Except.ok.inj h).symm⟩
      rw [← hv.unique hw]
      exact Bool.eq_false_of_not_eq_true hprefers
  · rw [consider_of_not_contends (not_exists.mp hcontends) (answers_of_consider h)] at h
    exact .inr ⟨fun v hv ↦ absurd ⟨v, hv⟩ hcontends, (Except.ok.inj h).symm⟩

/-! ## The walk -/

/-- Whether the best candidate is one of those that have been met, and the first of its version. -/
def IsFirst (runtime : TargetRuntime) (seen : List FrameworkDescriptor) (best : Best) : Prop :=
  ∃ before after, seen = before ++ best.1 :: after ∧ runtime.Contends best.1 best.2
    ∧ ∀ d ∈ before, ¬runtime.Contends d best.2

/-- What the walk keeps: how the best candidate stands to those that have been met. -/
structure IsBest (runtime : TargetRuntime) (start : Best) (seen : List FrameworkDescriptor)
    (best : Best) : Prop where
  /-- None of them beats it. -/
  unbeaten : ∀ d ∈ seen, ∀ v, runtime.Contends d v → prefers v best.2 = false
  /-- It is the start or the first of its version. -/
  origin : best = start ∨ runtime.IsFirst seen best

variable {start : Best}

theorem IsBest.consider (h : runtime.IsBest start seen best)
    (hstep : TargetRuntime.consider runtime best d = .ok best') :
    runtime.IsBest start (seen ++ [d]) best' := by
  rcases consider_cases hstep with ⟨v, hv, hbeats, rfl⟩ | ⟨hkept, rfl⟩
  · constructor
    · intro e he w hw
      rw [List.mem_append, List.mem_singleton] at he
      rcases he with he | rfl
      · -- What beats the new best candidate beat the former one too.
        rw [← Bool.not_eq_true]
        intro hprefers
        have hformer := Version.prefers_trans hprefers hbeats
        rw [h.unbeaten e he w hw] at hformer
        cases hformer
      · rw [hw.unique hv]
        exact Version.prefers_self v
    · refine .inr ⟨seen, [], rfl, hv, fun e he hsame ↦ ?_⟩
      rw [h.unbeaten e he v hsame] at hbeats
      cases hbeats
  · constructor
    · intro e he w hw
      rw [List.mem_append, List.mem_singleton] at he
      rcases he with he | rfl
      · exact h.unbeaten e he w hw
      · exact hkept w hw
    · refine h.origin.imp_right ?_
      rintro ⟨before, after, rfl, hfirst⟩
      exact ⟨before, after ++ [d], by simp, hfirst⟩

theorem IsBest.foldlM (h : runtime.IsBest start seen best)
    (hrun : candidates.foldlM (TargetRuntime.consider runtime) best = .ok best') :
    runtime.IsBest start (seen ++ candidates) best' := by
  induction candidates generalizing seen best with
  | nil =>
    obtain rfl := Except.ok.inj hrun
    rwa [List.append_nil]
  | cons d rest ih =>
    rw [List.foldlM_cons] at hrun
    obtain ⟨next, hnext, hrest⟩ := bind_eq_ok_iff.mp hrun
    have hall := ih (h.consider hnext) hrest
    rwa [List.append_assoc, List.singleton_append] at hall

theorem exists_foldlM_consider_eq_ok_iff (best : Best) :
    (∃ best', candidates.foldlM (consider runtime) best = .ok best')
      ↔ ∀ d ∈ candidates, runtime.Answers d := by
  induction candidates generalizing best with
  | nil => simp [pure, Except.pure]
  | cons d rest ih =>
    rw [List.forall_mem_cons, ← exists_consider_eq_ok_iff best]
    simp only [List.foldlM_cons, bind_eq_ok_iff]
    constructor
    · rintro ⟨best', next, hnext, hrest⟩
      exact ⟨⟨next, hnext⟩, (ih next).mp ⟨best', hrest⟩⟩
    · rintro ⟨⟨next, hnext⟩, hrest⟩
      obtain ⟨best', hbest'⟩ := (ih next).mpr hrest
      exact ⟨best', next, hnext, hbest'⟩

/-! ## The choice -/

/-- The runtime with another list of frameworks. -/
def listing (runtime : TargetRuntime) (candidates : List FrameworkDescriptor) : TargetRuntime :=
  { runtime with frameworks := .ok candidates }

/-- What is chosen is the best candidate at the end of the walk. -/
theorem exists_start (hcandidates : runtime.frameworks = .ok candidates) (hd : d ∈ candidates) :
    ∃ first, ∀ chosen, runtime.defaultFramework = .ok chosen
      ↔ ∃ v, candidates.foldlM (consider runtime) (first, [0]) = .ok (chosen, v) := by
  cases candidates with
  | nil => cases hd
  | cons first rest =>
    refine ⟨first, fun chosen ↦ ?_⟩
    have hwalk : runtime.defaultFramework = (do
        let best ← (first :: rest).foldlM (consider runtime) (first, [0])
        return best.1) := by
      rw [defaultFramework, hcandidates]
      rfl
    rw [hwalk, bind_eq_ok_iff]
    constructor
    · rintro ⟨best, hrun, h⟩
      obtain rfl := Except.ok.inj h
      exact ⟨best.2, hrun⟩
    · rintro ⟨v, hrun⟩
      exact ⟨(chosen, v), hrun, rfl⟩

theorem exists_defaultFramework_eq_ok_iff (hcandidates : runtime.frameworks = .ok candidates)
    (hd : d ∈ candidates) :
    (∃ chosen, runtime.defaultFramework = .ok chosen) ↔ ∀ d ∈ candidates, runtime.Answers d := by
  obtain ⟨first, hstart⟩ := exists_start hcandidates hd
  rw [← exists_foldlM_consider_eq_ok_iff (first, [0]), Prod.exists]
  exact exists_congr hstart

/-- With a candidate whose first number is positive, what is chosen is one of the candidates. -/
theorem exists_of_defaultFramework (hcandidates : runtime.frameworks = .ok candidates)
    (hd : d ∈ candidates) {n : Nat} {rest : Version} (hcontends : runtime.Contends d (n :: rest))
    (hn : 0 < n) {chosen : FrameworkDescriptor} (h : runtime.defaultFramework = .ok chosen) :
    ∃ v, runtime.IsFirst candidates (chosen, v)
      ∧ ∀ d ∈ candidates, ∀ w, runtime.Contends d w → prefers w v = false := by
  obtain ⟨first, hstart⟩ := exists_start hcandidates hd
  obtain ⟨v, hrun⟩ := (hstart chosen).mp h
  have hseed : runtime.IsBest (first, [0]) [] (first, [0]) := ⟨by simp, .inl rfl⟩
  have hbest := hseed.foldlM hrun
  refine ⟨v, hbest.origin.resolve_left fun hsame ↦ ?_, hbest.unbeaten⟩
  -- The start is beaten by the candidate that is known.
  have hbeats : prefers (n :: rest) [0] = true := Version.prefers_cons_cons_iff.mpr (.inl hn)
  rw [(Prod.mk.inj hsame).2] at hbest
  rw [hbest.unbeaten d hd _ hcontends] at hbeats
  cases hbeats

/-- **The choice of a framework** is a first greatest one. With a candidate whose first number is
positive, something is chosen if everything that is asked about the candidates has an answer, and
only then. It is then a candidate that no other one beats and that has no earlier candidate of the
same version. Where all candidates have versions of one length, its version is the greatest in
lexicographic order, and the order of the list does not matter for it. -/
theorem defaultFramework_greatest (hcandidates : runtime.frameworks = .ok candidates)
    (hd : d ∈ candidates) {n : Nat} {rest : Version} (hcontends : runtime.Contends d (n :: rest))
    (hn : 0 < n) :
    ((∃ chosen, runtime.defaultFramework = .ok chosen) ↔ ∀ d ∈ candidates, runtime.Answers d)
      ∧ ∀ chosen, runtime.defaultFramework = .ok chosen →
        ∃ before after v, candidates = before ++ chosen :: after ∧ runtime.Contends chosen v
          ∧ (∀ d ∈ candidates, ∀ w, runtime.Contends d w → prefers w v = false)
          ∧ (∀ d ∈ before, ¬runtime.Contends d v)
          ∧ ((∀ d ∈ candidates, ∀ w, runtime.Contends d w → w.length = v.length) →
            (∀ d ∈ candidates, ∀ w, runtime.Contends d w → w ≤ v)
              ∧ ∀ candidates' : List FrameworkDescriptor, candidates'.Perm candidates →
                ∃ chosen', (runtime.listing candidates').defaultFramework = .ok chosen'
                  ∧ runtime.Contends chosen' v) := by
  have hreturns := exists_defaultFramework_eq_ok_iff hcandidates hd
  refine ⟨hreturns, fun chosen hchosen ↦ ?_⟩
  obtain ⟨v, ⟨before, after, hsplit, hv, hfirst⟩, hunbeaten⟩ :=
    exists_of_defaultFramework hcandidates hd hcontends hn hchosen
  refine ⟨before, after, v, hsplit, hv, hunbeaten, hfirst, fun hlength ↦ ?_⟩
  have hgreatest : ∀ d ∈ candidates, ∀ w, runtime.Contends d w → w ≤ v := fun d hd w hw ↦
    Version.le_of_prefers_eq_false (hlength d hd w hw) (hunbeaten d hd w hw)
  refine ⟨hgreatest, fun candidates' hperm ↦ ?_⟩
  have hd' : d ∈ candidates' := hperm.mem_iff.mpr hd
  have hlisted : (runtime.listing candidates').frameworks = .ok candidates' := rfl
  -- What the runtime says about a framework does not depend on its list.
  have hanswers : ∀ e ∈ candidates', (runtime.listing candidates').Answers e := fun e he ↦
    hreturns.mp ⟨chosen, hchosen⟩ e (hperm.mem_iff.mp he)
  obtain ⟨chosen', hchosen'⟩ := (exists_defaultFramework_eq_ok_iff hlisted hd').mpr hanswers
  obtain ⟨v', ⟨before', after', hsplit', hv', -⟩, hunbeaten'⟩ :=
    exists_of_defaultFramework hlisted hd' hcontends hn hchosen'
  refine ⟨chosen', hchosen', ?_⟩
  -- Either version is at most the other one.
  have hmem' : chosen' ∈ candidates := hperm.mem_iff.mp (hsplit' ▸ by simp)
  have hmem : chosen ∈ candidates' := hperm.mem_iff.mpr (hsplit ▸ by simp)
  have hle : v' ≤ v := hgreatest chosen' hmem' v' hv'
  have hge : v ≤ v' := Version.le_of_prefers_eq_false (hlength chosen' hmem' v' hv').symm
    (hunbeaten' chosen hmem v hv)
  rw [le_antisymm hge hle]
  exact hv'

/-! ### Instances -/

/-- A runtime whose frameworks are all installed. -/
def installing (frameworks : List FrameworkDescriptor) : TargetRuntime where
  frameworks := .ok frameworks
  isInstalled _ := .ok true
  toolDirectories _ := []
  referenceDirectories := []
  facades _ := .ok []

/-- The desktop framework of a version. -/
def desktopVersion (version : String) : FrameworkDescriptor :=
  ({ identifier := Moniker.desktop, version } : Moniker)

/-- A portable framework and desktop frameworks whose versions have two numbers. -/
def listedFrameworks : List FrameworkDescriptor :=
  [({ identifier := Moniker.portable, version := "5.0", profile := "Profile7" } : Moniker),
    desktopVersion "3.5", desktopVersion "v4.5", desktopVersion "4.0"]

/-- The newest framework is chosen from either end of the list. -/
theorem defaultFramework_greatest_listed :
    (installing listedFrameworks).Contends (desktopVersion "3.5") [3, 5]
      ∧ (installing listedFrameworks).defaultFramework = .ok (desktopVersion "v4.5")
      ∧ ∃ chosen,
        ((installing listedFrameworks).listing listedFrameworks.reverse).defaultFramework
            = .ok chosen
          ∧ (installing listedFrameworks).Contends chosen [4, 5] := by
  have hcontends : (installing listedFrameworks).Contends (desktopVersion "3.5") [3, 5] :=
    ⟨rfl, rfl, by decide +kernel⟩
  have hchosen : (installing listedFrameworks).defaultFramework = .ok (desktopVersion "v4.5") := by
    decide +kernel
  have hgreatest : (installing listedFrameworks).Contends (desktopVersion "v4.5") [4, 5] :=
    ⟨rfl, rfl, by decide +kernel⟩
  -- Every version that can be read has two numbers.
  have hlengths : ∀ d ∈ listedFrameworks, d.moniker.parsedVersion.map List.length = .ok 2 := by
    decide +kernel
  have hlisted : (installing listedFrameworks).frameworks = .ok listedFrameworks := rfl
  have hmem : desktopVersion "3.5" ∈ listedFrameworks := by decide +kernel
  obtain ⟨before, after, v, -, hv, -, -, hsame⟩ :=
    (defaultFramework_greatest hlisted hmem hcontends (by decide)).2 _ hchosen
  obtain rfl := hv.unique hgreatest
  refine ⟨hcontends, hchosen, (hsame fun d hd w hw ↦ ?_).2 _ (List.reverse_perm _)⟩
  have hlength := hlengths d hd
  rw [hw.2.2] at hlength
  exact Except.ok.inj hlength

/-- A number with more digits than are read. -/
def longNumber : List Char := List.replicate 4301 '9'

/-- A version with such a number. -/
def longVersion : String := String.ofList ('3' :: '.' :: longNumber)

/-- A framework with such a version keeps the newer one from being chosen. -/
theorem defaultFramework_longVersion :
    (installing [desktopVersion "4.5", desktopVersion longVersion]).Contends
        (desktopVersion "4.5") [4, 5]
      ∧ ¬∃ chosen, (installing [desktopVersion "4.5", desktopVersion longVersion]).defaultFramework
        = .ok chosen := by
  refine ⟨⟨rfl, rfl, by decide +kernel⟩, ?_⟩
  rw [exists_defaultFramework_eq_ok_iff rfl List.mem_cons_self]
  intro hanswers
  obtain ⟨installed, hinstalled, hreadable⟩ := hanswers (desktopVersion longVersion)
    (List.mem_cons_of_mem _ List.mem_cons_self)
  obtain rfl := Except.ok.inj hinstalled
  have hsegment : longNumber ∈ Version.segments longVersion.toList := by
    rw [longVersion, String.toList_ofList]
    decide +kernel
  have hlong : Numeral.isNumeral (Text.strip longNumber) = true
      ∧ Numeral.digitLimit < (Text.strip longNumber).length := by decide +kernel
  exact hlong.2.not_ge (hreadable rfl rfl longNumber hsegment hlong.1)

end TargetRuntime

end FSharpFlags
