import FSharpFlags.Proofs.DocumentReading
import FSharpFlags.Proofs.FrameworkChoice
import FSharpFlags.Proofs.NumeralLimit

/-!
# Whether the default framework is installed

The walk over the frameworks of a runtime asks of every entry whether it is installed before the
entry can become the best one. Its start is exempt: it is the first entry of the list, and about it
nothing has been asked. So what is chosen is installed if the start is, or if the start does not
survive; and it survives unless a candidate beats version zero, that is, unless an installed desktop
framework has a version whose first number is positive.

In particular nothing is refused for want of an installed framework. The one refusal is that of the
empty list; a list of frameworks none of which is installed has its first entry as the answer.

Where the questions about installation all have answers, the only other end of the walk is a version
with a number of too many digits, and that is no refusal for want of frameworks either.
-/

namespace FSharpFlags

namespace Version

/-- What beats version zero. -/
theorem prefers_zero_iff {v : Version} :
    prefers v [0] = true ↔ ∃ n rest, v = n :: rest ∧ 0 < n := by
  cases v with
  | nil => simp
  | cons n rest => simp [prefers_cons_cons_iff]

theorem parse_ne_report (text : String) (d : Diagnostic) : parse text ≠ .error (.report d) := by
  refine mapM_ne_error fun segment _ hsegment ↦ ?_
  unfold readSegment at hsegment
  split_ifs at hsegment
  cases (Json.Machine.read_eq_error_iff.mp hsegment).2

end Version

namespace TargetRuntime

open Version (prefers)

variable {runtime : TargetRuntime} {d first chosen : FrameworkDescriptor} {best best' : Best}
  {candidates rest : List FrameworkDescriptor} {installed : FrameworkDescriptor → Bool}

/-! ## The end of the walk -/

/-- The walk ends where it started or at a candidate that beats the start. -/
theorem foldlM_consider_cases (h : candidates.foldlM (consider runtime) best = .ok best') :
    best' = best ∨ best'.1 ∈ candidates ∧ runtime.Contends best'.1 best'.2
      ∧ prefers best'.2 best.2 = true := by
  induction candidates generalizing best with
  | nil => exact .inl (Except.ok.inj h).symm
  | cons d rest ih =>
    rw [List.foldlM_cons] at h
    obtain ⟨next, hnext, hrest⟩ := bind_eq_ok_iff.mp h
    rcases consider_cases hnext with ⟨v, hv, hbeats, rfl⟩ | ⟨-, rfl⟩
    · -- Whatever the walk ends at then, it beats the start because `v` does.
      rcases ih hrest with rfl | ⟨hmem, hcontends, hprefers⟩
      · exact .inr ⟨List.mem_cons_self, hv, hbeats⟩
      · exact .inr ⟨List.mem_cons_of_mem _ hmem, hcontends, Version.prefers_trans hprefers hbeats⟩
    · exact (ih hrest).imp_right fun ⟨hmem, h⟩ ↦ ⟨List.mem_cons_of_mem _ hmem, h⟩

/-- Whether a candidate can take the place of the start: some installed desktop framework has a
version whose first number is positive. -/
def HasContender (runtime : TargetRuntime) (candidates : List FrameworkDescriptor) : Prop :=
  ∃ d ∈ candidates, ∃ n rest, runtime.Contends d (n :: rest) ∧ 0 < n

theorem defaultFramework_cons (h : runtime.frameworks = .ok (first :: rest)) :
    runtime.defaultFramework
      = (first :: rest).foldlM (consider runtime) (first, [0]) >>= fun best ↦ .ok best.1 := by
  rw [defaultFramework, h]
  rfl

/-- What is chosen is a candidate that is installed, or else the first entry of the list; the
latter if there is no contender, and only then. -/
theorem chosen_cases (hcandidates : runtime.frameworks = .ok (first :: rest))
    (h : runtime.defaultFramework = .ok chosen) :
    runtime.HasContender (first :: rest) ∧ runtime.isInstalled chosen = .ok true
      ∨ ¬runtime.HasContender (first :: rest) ∧ chosen = first := by
  by_cases hcontender : runtime.HasContender (first :: rest)
  · obtain ⟨d, hd, n, numbers, hcontends, hn⟩ := hcontender
    obtain ⟨v, ⟨-, -, -, hchosen, -⟩, -⟩ :=
      exists_of_defaultFramework hcandidates hd hcontends hn h
    exact .inl ⟨⟨d, hd, n, numbers, hcontends, hn⟩, hchosen.1⟩
  · rw [defaultFramework_cons hcandidates] at h
    obtain ⟨best, hrun, hbest⟩ := bind_eq_ok_iff.mp h
    obtain rfl := Except.ok.inj hbest
    refine .inr ⟨hcontender, ?_⟩
    rcases foldlM_consider_cases hrun with rfl | ⟨hmem, hcontends, hbeats⟩
    · rfl
    · obtain ⟨n, numbers, hversion, hn⟩ := Version.prefers_zero_iff.mp hbeats
      exact absurd ⟨best.1, hmem, n, numbers, hversion ▸ hcontends, hn⟩ hcontender

/-! ## Refusals -/

theorem consider_ne_report (hinstalled : ∀ d, runtime.isInstalled d = .ok (installed d))
    (report : Diagnostic) (best : Best) : consider runtime best d ≠ .error (.report report) := by
  rw [consider, hinstalled, Ne, bind_eq_error_iff]
  rintro (h | ⟨answer, -, h⟩)
  · cases h
  · split_ifs at h
    · rcases bind_eq_error_iff.mp h with h | ⟨v, -, h⟩
      · exact Version.parse_ne_report _ _ h
      · split_ifs at h <;> cases h
    · cases h
    · cases h

/-- Only the empty list is refused for want of frameworks. -/
theorem defaultFramework_eq_noFrameworks_iff
    (hinstalled : ∀ d, runtime.isInstalled d = .ok (installed d))
    (hcandidates : runtime.frameworks = .ok candidates) :
    runtime.defaultFramework = .error (.report { kind := .noFrameworks }) ↔ candidates = [] := by
  cases candidates with
  | nil =>
    rw [defaultFramework, hcandidates]
    exact iff_of_true rfl rfl
  | cons first rest =>
    refine iff_of_false ?_ (List.cons_ne_nil _ _)
    rw [defaultFramework_cons hcandidates, bind_eq_error_iff]
    rintro (hrun | ⟨best, -, ⟨⟩⟩)
    exact foldlM_ne_error (fun d _ best ↦ consider_ne_report hinstalled _ best) _ hrun

/-! ## The default framework -/

/-- **An installed framework or none.** That there are no frameworks is the answer to an empty list
alone. For a list with a first entry, an installed framework is chosen if every installed desktop
framework has a readable version and either the first entry is installed or some installed desktop
framework has a version whose first number is positive, and only then. A framework that is chosen
without being installed is the first entry. -/
theorem defaultFramework_installed_iff
    (hcandidates : runtime.frameworks = .ok candidates)
    (hinstalled : ∀ d, runtime.isInstalled d = .ok (installed d)) :
    (runtime.defaultFramework = .error (.report { kind := .noFrameworks }) ↔ candidates = [])
      ∧ ((runtime.defaultFramework = .error (.report { kind := .noFrameworks })
          ∨ ∃ chosen, runtime.defaultFramework = .ok chosen ∧ installed chosen = true)
        ↔ ∀ first rest, candidates = first :: rest →
          (∀ d ∈ candidates, installed d = true → d.moniker.identifier = Moniker.desktop →
              Version.IsReadable d.moniker.version)
            ∧ (installed first = true ∨ runtime.HasContender candidates))
      ∧ ∀ chosen, runtime.defaultFramework = .ok chosen → installed chosen = false →
        candidates.head? = some chosen ∧ ¬runtime.HasContender candidates := by
  have hrefusal := defaultFramework_eq_noFrameworks_iff hinstalled hcandidates
  refine ⟨hrefusal, ?_⟩
  cases candidates with
  | nil =>
    have hempty := hrefusal.mpr rfl
    refine ⟨iff_of_true (.inl hempty) (by rintro _ _ ⟨⟩), fun chosen hchosen ↦ ?_⟩
    rw [hempty] at hchosen
    cases hchosen
  | cons first rest =>
    have hanswers : ∀ d, runtime.Answers d ↔ (installed d = true →
        d.moniker.identifier = Moniker.desktop → Version.IsReadable d.moniker.version) := by
      intro d
      simp [Answers, hinstalled]
    have hreturns := exists_defaultFramework_eq_ok_iff hcandidates List.mem_cons_self
    simp only [hanswers] at hreturns
    refine ⟨?_, fun chosen hchosen hnot ↦ ?_⟩
    · rw [or_iff_right (mt hrefusal.mp (List.cons_ne_nil _ _))]
      constructor
      · rintro ⟨chosen, hchosen, htrue⟩ _ _ ⟨⟩
        refine ⟨hreturns.mp ⟨chosen, hchosen⟩, ?_⟩
        rcases chosen_cases hcandidates hchosen with ⟨hcontender, -⟩ | ⟨-, rfl⟩
        · exact .inr hcontender
        · exact .inl htrue
      · intro h
        obtain ⟨hreadable, hstart⟩ := h first rest rfl
        obtain ⟨chosen, hchosen⟩ := hreturns.mpr hreadable
        refine ⟨chosen, hchosen, ?_⟩
        rcases chosen_cases hcandidates hchosen with ⟨-, htrue⟩ | ⟨hno, rfl⟩
        · exact Except.ok.inj ((hinstalled chosen).symm.trans htrue)
        · exact hstart.resolve_right hno
    · rcases chosen_cases hcandidates hchosen with ⟨-, htrue⟩ | ⟨hno, rfl⟩
      · rw [hinstalled, hnot] at htrue
        cases htrue
      · exact ⟨rfl, hno⟩

/-! ### Instances -/

/-- The runtime with another answer to what is installed. -/
def holding (runtime : TargetRuntime) (installed : FrameworkDescriptor → Bool) : TargetRuntime :=
  { runtime with isInstalled d := .ok (installed d) }

/-- A runtime that lists a portable framework first and has only the desktop frameworks. -/
def desktopOnly : TargetRuntime :=
  (installing listedFrameworks).holding fun d ↦ d.moniker.identifier = Moniker.desktop

/-- An installed framework is found behind one that is not. -/
theorem defaultFramework_desktopOnly :
    (∃ first rest, desktopOnly.frameworks = .ok (first :: rest)
        ∧ desktopOnly.isInstalled first = .ok false)
      ∧ ∃ chosen, desktopOnly.defaultFramework = .ok chosen
        ∧ desktopOnly.isInstalled chosen = .ok true := by
  have hlisted : desktopOnly.frameworks = .ok listedFrameworks := rfl
  have hcontender : desktopOnly.HasContender listedFrameworks :=
    ⟨desktopVersion "3.5", by decide, 3, [5], ⟨by decide, rfl, by decide⟩,
      by decide⟩
  have hlengths : ∀ d ∈ listedFrameworks, d.moniker.parsedVersion.map List.length = .ok 2 := by
    decide
  have hreadable : ∀ d ∈ listedFrameworks, Version.IsReadable d.moniker.version := by
    intro d hd
    have hlength := hlengths d hd
    rw [← Version.exists_parse_eq_ok_iff, ← Moniker.parsedVersion]
    cases hversion : d.moniker.parsedVersion with
    | error failure =>
      rw [hversion] at hlength
      cases hlength
    | ok v => exact ⟨v, rfl⟩
  refine ⟨⟨_, _, hlisted, rfl⟩, ?_⟩
  obtain ⟨hrefusal, hinstalled, -⟩ := defaultFramework_installed_iff hlisted fun _ ↦ rfl
  rcases hinstalled.mpr fun _ _ _ ↦ ⟨fun d hd _ _ ↦ hreadable d hd, .inr hcontender⟩ with
    hnone | ⟨chosen, hchosen, htrue⟩
  · cases hrefusal.mp hnone
  · exact ⟨chosen, hchosen, congrArg Except.ok htrue⟩

/-- With nothing installed the first framework of the list is chosen. -/
theorem defaultFramework_uninstalled :
    ((installing [desktopVersion "4.5"]).holding fun _ ↦ false).defaultFramework
        = .ok (desktopVersion "4.5")
      ∧ ((installing [desktopVersion "4.5"]).holding fun _ ↦ false).isInstalled
        (desktopVersion "4.5") = .ok false := by
  decide

end TargetRuntime

end FSharpFlags
