import FSharpFlags.CommandLine.Run
import FSharpFlags.FileSystem.Build
import FSharpFlags.Proofs.CompactText
import FSharpFlags.Proofs.CompileOrder
import FSharpFlags.Proofs.Traversal

/-!
# What a command prints

A command works in stages, each of which can end the work: a document is loaded, a project chosen
from it, its configuration looked up, and only then something is generated. What is printed is made
from the result of the last stage, so there is nothing to print before the work is done. A command
that ends early prints nothing or, for programs, the one object that tells why.

The stages are stated here on their own, command by command, once for results and once for failures.
A result has one list of lines for people and one object for programs, and both show the same
things. Which of the two is printed has no influence on the stages.

Nothing is said of a workspace document in which half of a surrogate pair stands on its own: a run
over it has no outcome here.
-/

namespace FSharpFlags

/-! ## Results -/

/-- What a command comes to. -/
inductive Result where
  /-- The default framework. -/
  | framework (moniker : Moniker)
  /-- Where something lies, if it was found. -/
  | place (path : Option String)
  /-- The source files of a project under a configuration. -/
  | sources (project configuration : String) (files : List String)
  /-- Flags for a project under a configuration. -/
  | arguments (project configuration : String) (flags : List String)
  deriving DecidableEq

namespace Result

/-- What programs are told, as the members of one object. -/
def members : Result → Json.Members
  | .framework m => [("identifier", .string m.identifier), ("profile", .string m.profile),
    ("version", .string m.version)]
  | .place path => [("found", .bool path.isSome), ("path", .ofText? path)]
  | .sources project configuration files => [("project", .string project),
    ("configuration", .string configuration), ("sources", .ofTexts files)]
  | .arguments project configuration flags => [("project", .string project),
    ("configuration", .string configuration), ("arguments", .ofTexts flags)]

/-- What people are told, line by line. -/
def lines : Result → List String
  | .framework m => [m.text]
  | .place path => path.toList
  | .sources _ _ files => files
  | .arguments _ _ flags => flags

/-- Whether what was asked for is there. -/
def isFound : Result → Bool
  | .place path => path.isSome
  | _ => true

/-- The result as an answer. -/
def answer (r : Result) : Answer := ⟨.object r.members, r.lines, r.isFound⟩

theorem isFound_eq_false_iff {r : Result} : r.isFound = false ↔ r = .place none := by
  cases r <;> simp [isFound]

end Result

/-! ## Stages -/

namespace Session

variable {s : Session} {a : Arguments} {p : Project} {selection : Selection} {r : Result}
  {failure : Failure}

/-- The search that a command asks for. -/
def search? (s : Session) (a : Arguments) : Option (Attempt (Option String)) :=
  match a.command with
  | .tool => some (s.tools.locate (a.operand.getD ""))
  | .compiler => some s.tools.compiler
  | .interactive => some s.tools.interactive
  | _ => none

/-- Whether a project of the workspace is chosen, together with what is selected for it. -/
def Chooses (s : Session) (a : Arguments) (p : Project) (selection : Selection) : Prop :=
  ∃ workspace project, s.loadWorkspace a = .ok workspace
    ∧ selectProject workspace a.project = .ok project
    ∧ p = workspace.toProject s.runtime project
    ∧ selection = ⟨(given a.configuration).or workspace.activeConfiguration⟩

/-- Whether a command comes to a result. -/
inductive Gives (s : Session) (a : Arguments) : Result → Prop where
  | framework {d : FrameworkDescriptor} (command : a.command = .framework)
    (chosen : s.runtime.defaultFramework = .ok d) : Gives s a (.framework d.moniker)
  | place {search : Attempt (Option String)} {path : Option String}
    (asked : s.search? a = some search) (searched : search.outcome = .ok path) :
    Gives s a (.place path)
  | sources {p : Project} {selection : Selection} (command : a.command = .sources)
    (chosen : s.Chooses a p selection) :
    Gives s a (.sources p.name (p.selector selection) p.compiledFiles)
  | references {p : Project} {selection : Selection} {settings : CompilerSettings}
    {flags : List String} (command : a.command = .references) (chosen : s.Chooses a p selection)
    (configured : p.requireSettings selection = .ok settings)
    (generated : (p.referenceFlags s.fs selection (s.generationOptions a)).outcome = .ok flags) :
    Gives s a (.arguments p.name (p.selector selection) flags)
  | flags {p : Project} {selection : Selection} {settings : CompilerSettings}
    {flags : List String} (command : a.command = .flags) (chosen : s.Chooses a p selection)
    (configured : p.requireSettings selection = .ok settings)
    (generated : (p.compilerFlags s.fs settings selection (s.generationOptions a)).outcome
      = .ok flags) :
    Gives s a (.arguments p.name (p.selector selection) flags)

/-- Whether a command is about a project of the workspace. -/
def AsksProject (a : Arguments) : Prop :=
  a.command = .sources ∨ a.command = .references ∨ a.command = .flags

/-- Whether a command fails at one of its stages. -/
inductive Fails (s : Session) (a : Arguments) : Failure → Prop where
  | framework {failure : Failure} (command : a.command = .framework)
    (failed : s.runtime.defaultFramework = .error failure) : Fails s a failure
  | place {search : Attempt (Option String)} {failure : Failure}
    (asked : s.search? a = some search) (failed : search.outcome = .error failure) :
    Fails s a failure
  | workspace {failure : Failure} (command : AsksProject a)
    (failed : s.loadWorkspace a = .error failure) : Fails s a failure
  | project {workspace : Workspace} {failure : Failure} (command : AsksProject a)
    (loaded : s.loadWorkspace a = .ok workspace)
    (failed : selectProject workspace a.project = .error failure) : Fails s a failure
  | configuration {p : Project} {selection : Selection} {failure : Failure}
    (command : a.command = .references ∨ a.command = .flags) (chosen : s.Chooses a p selection)
    (failed : p.requireSettings selection = .error failure) : Fails s a failure
  | references {p : Project} {selection : Selection} {settings : CompilerSettings}
    {failure : Failure} (command : a.command = .references) (chosen : s.Chooses a p selection)
    (configured : p.requireSettings selection = .ok settings)
    (failed : (p.referenceFlags s.fs selection (s.generationOptions a)).outcome
      = .error failure) : Fails s a failure
  | flags {p : Project} {selection : Selection} {settings : CompilerSettings}
    {failure : Failure} (command : a.command = .flags) (chosen : s.Chooses a p selection)
    (configured : p.requireSettings selection = .ok settings)
    (failed : (p.compilerFlags s.fs settings selection (s.generationOptions a)).outcome
      = .error failure) : Fails s a failure

/-! ## The answer -/

theorem outcome_answer_of_search {search : Attempt (Option String)}
    (h : s.search? a = some search) :
    (s.answer a).outcome = search.outcome.bind fun path ↦ .ok (Result.place path).answer := by
  unfold search? at h
  rw [answer]
  split at h
  case h_4 => cases h
  -- The three commands that search answer alike.
  all_goals
    next hcommand =>
      obtain rfl := Option.some.inj h
      rw [hcommand]
      exact Attempt.outcome_bind _ _

theorem outcome_answer_of_framework (h : a.command = .framework) :
    (s.answer a).outcome
      = s.runtime.defaultFramework.bind fun d ↦ .ok (Result.framework d.moniker).answer := by
  rw [answer, h]
  exact Attempt.outcome_bind _ _

theorem outcome_answer_of_asksProject (h : AsksProject a) :
    (s.answer a).outcome = (s.loadWorkspace a).bind fun workspace ↦
      (selectProject workspace a.project).bind fun project ↦
        (s.tellProject a (workspace.toProject s.runtime project)
          ⟨(given a.configuration).or workspace.activeConfiguration⟩).outcome := by
  have hanswer : s.answer a = s.tellWorkspace a := by
    rcases h with h | h | h <;> rw [answer, h]
  rw [hanswer]
  refine (Attempt.outcome_bind _ _).trans ?_
  congr 1
  funext workspace
  exact Attempt.outcome_bind _ _

theorem outcome_answer_of_chooses (h : AsksProject a) (hchosen : s.Chooses a p selection) :
    (s.answer a).outcome = (s.tellProject a p selection).outcome := by
  obtain ⟨workspace, project, hworkspace, hproject, rfl, rfl⟩ := hchosen
  rw [outcome_answer_of_asksProject h, hworkspace]
  show (selectProject workspace a.project).bind _ = _
  rw [hproject]
  rfl

theorem outcome_tellProject_of_sources (h : a.command = .sources) :
    (s.tellProject a p selection).outcome
      = .ok (Result.sources p.name (p.selector selection) p.compiledFiles).answer := by
  rw [tellProject, if_pos h]
  rfl

theorem outcome_tellProject_of_references (h : a.command = .references) :
    (s.tellProject a p selection).outcome
      = (p.requireSettings selection).bind fun _ ↦
        (p.referenceFlags s.fs selection (s.generationOptions a)).outcome.bind fun flags ↦
          .ok (Result.arguments p.name (p.selector selection) flags).answer := by
  rw [tellProject, if_neg (by simp [h])]
  refine (Attempt.outcome_bind _ _).trans ?_
  congr 1
  funext settings
  rw [if_pos h]
  exact Attempt.outcome_bind _ _

theorem outcome_tellProject_of_flags (h : a.command = .flags) :
    (s.tellProject a p selection).outcome
      = (p.requireSettings selection).bind fun settings ↦
        (p.compilerFlags s.fs settings selection (s.generationOptions a)).outcome.bind fun flags ↦
          .ok (Result.arguments p.name (p.selector selection) flags).answer := by
  rw [tellProject, if_neg (by simp [h])]
  refine (Attempt.outcome_bind _ _).trans ?_
  congr 1
  funext settings
  rw [if_neg (by simp [h])]
  exact Attempt.outcome_bind _ _

theorem outcome_answer_of_gives (h : s.Gives a r) : (s.answer a).outcome = .ok r.answer := by
  cases h with
  | framework command chosen => rw [outcome_answer_of_framework command, chosen]; rfl
  | place asked searched => rw [outcome_answer_of_search asked, searched]; rfl
  | sources command chosen =>
    rw [outcome_answer_of_chooses (.inl command) chosen, outcome_tellProject_of_sources command]
  | references command chosen configured generated =>
    simp only [outcome_answer_of_chooses (.inr (.inl command)) chosen,
      outcome_tellProject_of_references command, configured, generated, Except.bind]
  | flags command chosen configured generated =>
    simp only [outcome_answer_of_chooses (.inr (.inr command)) chosen,
      outcome_tellProject_of_flags command, configured, generated, Except.bind]

theorem outcome_answer_of_fails (h : s.Fails a failure) :
    (s.answer a).outcome = .error failure := by
  cases h with
  | framework command failed => rw [outcome_answer_of_framework command, failed]; rfl
  | place asked failed => rw [outcome_answer_of_search asked, failed]; rfl
  | workspace command failed => rw [outcome_answer_of_asksProject command, failed]; rfl
  | project command loaded failed =>
    simp only [outcome_answer_of_asksProject command, loaded, failed, Except.bind]
  | configuration command chosen failed =>
    rw [outcome_answer_of_chooses (.inr command) chosen]
    rcases command with command | command
    · rw [outcome_tellProject_of_references command, failed]
      rfl
    · rw [outcome_tellProject_of_flags command, failed]
      rfl
  | references command chosen configured failed =>
    simp only [outcome_answer_of_chooses (.inr (.inl command)) chosen,
      outcome_tellProject_of_references command, configured, failed, Except.bind]
  | flags command chosen configured failed =>
    simp only [outcome_answer_of_chooses (.inr (.inr command)) chosen,
      outcome_tellProject_of_flags command, configured, failed, Except.bind]

/-- A chosen project is taken on to a result or a failure. -/
theorem gives_or_fails_of_chooses (h : AsksProject a) (chosen : s.Chooses a p selection) :
    (∃ r, s.Gives a r) ∨ ∃ failure, s.Fails a failure := by
  rcases h with command | hflags
  · exact .inl ⟨_, .sources command chosen⟩
  cases hsettings : p.requireSettings selection with
  | error failure => exact .inr ⟨failure, .configuration hflags chosen hsettings⟩
  | ok settings =>
    rcases hflags with command | command
    · cases hgenerated : (p.referenceFlags s.fs selection (s.generationOptions a)).outcome with
      | error failure => exact .inr ⟨failure, .references command chosen hsettings hgenerated⟩
      | ok flags => exact .inl ⟨_, .references command chosen hsettings hgenerated⟩
    · cases hgenerated :
          (p.compilerFlags s.fs settings selection (s.generationOptions a)).outcome with
      | error failure => exact .inr ⟨failure, .flags command chosen hsettings hgenerated⟩
      | ok flags => exact .inl ⟨_, .flags command chosen hsettings hgenerated⟩

theorem gives_or_fails_of_asksProject (h : AsksProject a) :
    (∃ r, s.Gives a r) ∨ ∃ failure, s.Fails a failure := by
  cases hworkspace : s.loadWorkspace a with
  | error failure => exact .inr ⟨failure, .workspace h hworkspace⟩
  | ok workspace =>
    cases hproject : selectProject workspace a.project with
    | error failure => exact .inr ⟨failure, .project h hworkspace hproject⟩
    | ok project =>
      exact gives_or_fails_of_chooses h ⟨workspace, project, hworkspace, hproject, rfl, rfl⟩

theorem gives_or_fails_of_search {search : Attempt (Option String)}
    (h : s.search? a = some search) : (∃ r, s.Gives a r) ∨ ∃ failure, s.Fails a failure := by
  cases hsearch : search.outcome with
  | error failure => exact .inr ⟨failure, .place h hsearch⟩
  | ok path => exact .inl ⟨_, .place h hsearch⟩

/-- Every command comes to a result or fails. -/
theorem gives_or_fails (s : Session) (a : Arguments) :
    (∃ r, s.Gives a r) ∨ ∃ failure, s.Fails a failure := by
  cases hcommand : a.command with
  | flags => exact gives_or_fails_of_asksProject (.inr (.inr hcommand))
  | references => exact gives_or_fails_of_asksProject (.inr (.inl hcommand))
  | sources => exact gives_or_fails_of_asksProject (.inl hcommand)
  | framework =>
    cases hchosen : s.runtime.defaultFramework with
    | error failure => exact .inr ⟨failure, .framework hcommand hchosen⟩
    | ok d => exact .inl ⟨_, .framework hcommand hchosen⟩
  | tool => exact gives_or_fails_of_search (by rw [search?, hcommand])
  | compiler => exact gives_or_fails_of_search (by rw [search?, hcommand])
  | interactive => exact gives_or_fails_of_search (by rw [search?, hcommand])

theorem outcome_answer_eq_ok_iff {answer : Answer} :
    (s.answer a).outcome = .ok answer ↔ ∃ r, s.Gives a r ∧ answer = r.answer := by
  constructor
  · intro h
    rcases gives_or_fails s a with ⟨r, hr⟩ | ⟨failure, hfailure⟩
    · exact ⟨r, hr, Except.ok.inj (h.symm.trans (outcome_answer_of_gives hr))⟩
    · cases h.symm.trans (outcome_answer_of_fails hfailure)
  · rintro ⟨r, hr, rfl⟩
    exact outcome_answer_of_gives hr

theorem outcome_answer_eq_error_iff :
    (s.answer a).outcome = .error failure ↔ s.Fails a failure := by
  refine ⟨fun h ↦ ?_, outcome_answer_of_fails⟩
  rcases gives_or_fails s a with ⟨r, hr⟩ | ⟨failure', hfailure⟩
  · cases h.symm.trans (outcome_answer_of_gives hr)
  · obtain rfl := Except.error.inj (h.symm.trans (outcome_answer_of_fails hfailure))
    exact hfailure

theorem gives_place_none_iff :
    s.Gives a (.place none) ↔ ∃ search, s.search? a = some search ∧ search.outcome = .ok none := by
  constructor
  · rintro ⟨⟩
    next search asked searched => exact ⟨search, asked, searched⟩
  · rintro ⟨search, asked, searched⟩
    exact .place asked searched

end Session

/-! ## Printed lines and objects -/

/-- Whether what was printed are the given lines, each with a line feed behind it, and nothing
else. -/
def PrintsLines (output : String) (lines : List String) : Prop :=
  output.toList = lines.flatMap fun line ↦ line.toList ++ ['\n']

/-- Whether what was printed is one line that is read as an object with the given members. -/
def PrintsObject (output : String) (members : Json.Members) : Prop :=
  ∃ text sorted, PrintsLines output [text] ∧ Json.read text.toList = .ok (.object sorted)
    ∧ sorted.Perm members

theorem printsLines_joinLines (lines : List String) : PrintsLines (joinLines lines) lines := by
  have hempty : ∀ pieces : List (List Char), [].intercalate pieces = pieces.flatten := by
    intro pieces
    induction pieces with
    | nil => rfl
    | cons piece rest ih =>
      cases rest with
      | nil => rw [List.intercalate_singleton, List.flatten_singleton]
      | cons next rest =>
        rw [List.intercalate_cons_cons, ih, List.append_nil]
        rfl
  rw [PrintsLines, joinLines, String.toList_intercalate, List.map_map]
  show [].intercalate _ = _
  rw [hempty, List.flatMap_def]
  congr 1
  refine List.map_congr_left fun line _ ↦ ?_
  exact String.toList_append

theorem printsObject_joinLines {members : Json.Members} (hnodup : (members.map (·.1)).Nodup)
    (hvalues : ∀ m ∈ members, m.2.IsOrdered) :
    PrintsObject (joinLines [(Json.object members).compact]) members := by
  obtain ⟨sorted, hread, hperm⟩ :=
    Json.exists_read_compact hnodup hvalues (List.forall_mem_nil _)
  rw [List.append_nil] at hread
  exact ⟨_, sorted, printsLines_joinLines _, hread, hperm⟩

namespace Json

theorem isOrdered_ofText? (text : Option String) : (ofText? text).IsOrdered := by
  cases text with
  | none => exact .null
  | some text => exact .string text

theorem isOrdered_ofTexts (texts : List String) : (ofTexts texts).IsOrdered := by
  refine .array fun item hitem ↦ ?_
  obtain ⟨text, -, rfl⟩ := List.mem_map.mp hitem
  exact .string text

end Json

namespace Diagnostic

/-- What programs are told of a reported condition, as the members of one object. -/
def fields (d : Diagnostic) : Json.Members :=
  [("message", .string d.message), ("path", .ofText? d.path),
    ("project", if d.isNameless then .array [] else .ofText? d.project),
    ("reason_code", .string d.reasonCode)]

theorem value_eq_object_fields (d : Diagnostic) : d.value = .object d.fields := rfl

theorem isOrdered_value (d : Diagnostic) : d.value.IsOrdered := by
  have hproject : (if d.isNameless then Json.array [] else .ofText? d.project).IsOrdered := by
    split
    · exact .array (by simp)
    · exact Json.isOrdered_ofText? _
  have hkeys : ["message", "path", "project", "reason_code"].Pairwise (· < ·) := by decide
  rw [value_eq_object_fields]
  refine .object hkeys fun m hm ↦ ?_
  simp only [fields, List.mem_cons, List.not_mem_nil, or_false] at hm
  rcases hm with rfl | rfl | rfl | rfl
  · exact .string _
  · exact Json.isOrdered_ofText? _
  · exact hproject
  · exact .string _

end Diagnostic

namespace Result

theorem nodup_keys (r : Result) : (r.members.map (·.1)).Nodup := by
  cases r <;> simp [members]

theorem isOrdered_of_mem_members {r : Result} {m : String × Json} (h : m ∈ r.members) :
    m.2.IsOrdered := by
  cases r <;> simp only [members, List.mem_cons, List.not_mem_nil, or_false] at h
  case framework => rcases h with rfl | rfl | rfl <;> exact .string _
  case place =>
    rcases h with rfl | rfl
    · exact .bool _
    · exact Json.isOrdered_ofText? _
  case sources =>
    rcases h with rfl | rfl | rfl
    · exact .string _
    · exact .string _
    · exact Json.isOrdered_ofTexts _
  case arguments =>
    rcases h with rfl | rfl | rfl
    · exact .string _
    · exact .string _
    · exact Json.isOrdered_ofTexts _

end Result

/-! ## The run -/

variable {parser : ImageParser} {fs : FileSystem} {vars : Variables} {words : List String}
  {outcome : Outcome} {a : Arguments} {s : Session} {r : Result} {d : Diagnostic}

theorem exists_conclude_of_runWith (h : runWith parser fs vars words = .finished outcome) :
    ∃ a s, Arguments.ofTexts words = .ok a ∧ Session.start parser fs vars a = .ok s
      ∧ a.conclude (s.answer a) = .finished outcome := by
  unfold runWith at h
  split at h
  · cases h
  · next a ha =>
    split at h
    · cases h
    · next s hs => exact ⟨a, s, ha, hs, h⟩

/-- A result is printed whole, in the form asked for. -/
theorem outcome_of_gives (h : a.conclude (s.answer a) = .finished outcome) (hr : s.Gives a r) :
    outcome.exitCode = (if r.isFound then 0 else 1)
      ∧ (a.json = false → PrintsLines outcome.output r.lines)
      ∧ (a.json = true → PrintsObject outcome.output r.members) := by
  rw [Arguments.conclude, Session.outcome_answer_of_gives hr] at h
  obtain rfl := Ending.finished.inj h
  refine ⟨rfl, fun hjson ↦ ?_, fun hjson ↦ ?_⟩
  · rw [Arguments.answerLines, hjson]
    exact printsLines_joinLines r.lines
  · rw [Arguments.answerLines, hjson]
    exact printsObject_joinLines r.nodup_keys fun m ↦ Result.isOrdered_of_mem_members

/-- A reported condition is all that is printed, to programs as an object and to people as the last
line of the remarks. -/
theorem outcome_of_fails (h : a.conclude (s.answer a) = .finished outcome)
    (hd : s.Fails a (.report d)) :
    outcome.exitCode = 2
      ∧ (a.json = false → outcome.output = ""
        ∧ ∃ remarks, PrintsLines outcome.remarks (remarks ++ [d.line]))
      ∧ (a.json = true →
        PrintsObject outcome.output [("error", .object d.fields), ("ok", .bool false)]) := by
  rw [Arguments.conclude, Session.outcome_answer_of_fails hd] at h
  dsimp only at h
  split_ifs at h with hjson
  · obtain rfl := Ending.finished.inj h
    refine ⟨rfl, fun hjson' ↦ absurd (hjson.symm.trans hjson') (by decide), fun _ ↦ ?_⟩
    refine printsObject_joinLines (by simp) fun m hm ↦ ?_
    rcases List.mem_pair.mp hm with rfl | rfl
    · exact d.isOrdered_value
    · exact .bool false
  · obtain rfl := Ending.finished.inj h
    exact ⟨rfl, fun _ ↦ ⟨rfl, _, printsLines_joinLines _⟩, fun hjson' ↦ absurd hjson' hjson⟩

/-- A run is only complete with a result or a reported condition. -/
theorem gives_or_reports (h : a.conclude (s.answer a) = .finished outcome) :
    (∃ r, s.Gives a r) ∨ ∃ d, s.Fails a (.report d) := by
  cases houtcome : (s.answer a).outcome with
  | ok answer =>
    obtain ⟨r, hr, -⟩ := Session.outcome_answer_eq_ok_iff.mp houtcome
    exact .inl ⟨r, hr⟩
  | error failure =>
    have hfailure := Session.outcome_answer_eq_error_iff.mp houtcome
    rw [Arguments.conclude, houtcome] at h
    cases failure with
    | report d => exact .inr ⟨d, hfailure⟩
    | _ => cases h

/-- The exit code tells the three ways apart in which a run can be complete. -/
theorem exitCode_cases (h : a.conclude (s.answer a) = .finished outcome) :
    (outcome.exitCode = 2 ∧ ∃ d, s.Fails a (.report d))
      ∨ (outcome.exitCode = 1 ∧ s.Gives a (.place none))
      ∨ outcome.exitCode = 0 ∧ ∃ r, s.Gives a r ∧ r ≠ .place none := by
  rcases gives_or_reports h with ⟨r, hr⟩ | ⟨d, hd⟩
  · have hcode := (outcome_of_gives h hr).1
    cases hfound : r.isFound with
    | false =>
      rw [hfound] at hcode
      obtain rfl := Result.isFound_eq_false_iff.mp hfound
      exact .inr (.inl ⟨hcode, hr⟩)
    | true =>
      rw [hfound] at hcode
      refine .inr (.inr ⟨hcode, r, hr, fun hnone ↦ ?_⟩)
      rw [hnone] at hfound
      cases hfound
  · exact .inl ⟨(outcome_of_fails h hd).1, d, hd⟩

/-- **A complete run prints a complete answer.** The exit code tells whether a condition was
reported, a search was in vain, or the command came to its result. What is printed then is the
condition, or the whole result, and nothing else: for programs as one object, for people line by
line. This holds of a run with any parser of images. -/
theorem run_complete (h : runWith parser fs vars words = .finished outcome) :
    ∃ a s, Arguments.ofTexts words = .ok a ∧ Session.start parser fs vars a = .ok s
      ∧ (outcome.exitCode = 2 ↔ ∃ d, s.Fails a (.report d))
      ∧ (outcome.exitCode = 1 ↔ ∃ search, s.search? a = some search ∧ search.outcome = .ok none)
      ∧ (outcome.exitCode = 0 ↔ ∃ r, s.Gives a r ∧ r ≠ .place none)
      ∧ outcome.exitCode ≤ 2
      ∧ (∀ d, s.Fails a (.report d) →
        (a.json = false → outcome.output = ""
          ∧ ∃ remarks, PrintsLines outcome.remarks (remarks ++ [d.line]))
        ∧ (a.json = true →
          PrintsObject outcome.output [("error", .object d.fields), ("ok", .bool false)]))
      ∧ ∀ r, s.Gives a r →
        (a.json = false → PrintsLines outcome.output r.lines)
        ∧ (a.json = true → PrintsObject outcome.output r.members) := by
  obtain ⟨a, s, ha, hs, h⟩ := exists_conclude_of_runWith h
  have hcases := exitCode_cases h
  refine ⟨a, s, ha, hs, ⟨fun htwo ↦ ?_, ?_⟩, ⟨fun hone ↦ ?_, ?_⟩, ⟨fun hzero ↦ ?_, ?_⟩, ?_,
    fun d hd ↦ (outcome_of_fails h hd).2, fun r hr ↦ (outcome_of_gives h hr).2⟩
  · obtain ⟨-, hd⟩ | ⟨hcode, -⟩ | ⟨hcode, -⟩ := hcases
    · exact hd
    · cases htwo.symm.trans hcode
    · cases htwo.symm.trans hcode
  · rintro ⟨d, hd⟩
    exact (outcome_of_fails h hd).1
  · obtain ⟨hcode, -⟩ | ⟨-, hnone⟩ | ⟨hcode, -⟩ := hcases
    · cases hone.symm.trans hcode
    · exact Session.gives_place_none_iff.mp hnone
    · cases hone.symm.trans hcode
  · intro hnone
    exact (outcome_of_gives h (Session.gives_place_none_iff.mpr hnone)).1
  · obtain ⟨hcode, -⟩ | ⟨hcode, -⟩ | ⟨-, hr⟩ := hcases
    · cases hzero.symm.trans hcode
    · cases hzero.symm.trans hcode
    · exact hr
  · rintro ⟨r, hr, hne⟩
    have hfound : r.isFound = true := by
      by_contra hfound
      exact hne (Result.isFound_eq_false_iff.mp (by simpa using hfound))
    rw [(outcome_of_gives h hr).1, if_pos hfound]
  · obtain ⟨hcode, -⟩ | ⟨hcode, -⟩ | ⟨hcode, -⟩ := hcases <;> omega

/-! ### Instances -/

/-- The exit code of a complete run. -/
def Ending.exitCode? : Ending → Option Nat
  | .finished outcome => some outcome.exitCode
  | _ => none

theorem Ending.exists_of_exitCode? {e : Ending} {code : Nat} (h : e.exitCode? = some code) :
    ∃ outcome, e = .finished outcome ∧ outcome.exitCode = code := by
  cases e with
  | finished outcome => exact ⟨outcome, rfl, Option.some.inj h⟩
  | stopped _ => cases h
  | failed _ => cases h

/-- A file system with a workspace document about one project and its two source files. -/
def sourceFiles : FileSystem where
  root := .directory [("ws.json", .file (String.toUTF8 (
    "\x7b\"format\":\"fsbind-workspace\",\"version\":0,\"projects\":["
      ++ "\x7b\"name\":\"App\",\"file\":\"App.fsproj\",\"files\":["
      ++ "\x7b\"path\":\"A.fs\"\x7d,\x7b\"path\":\"B.fs\"\x7d]\x7d]\x7d")) false)] false
  currentDirectory := "/"

/-- The sources of the project that a command line asks for, the shared ones first. -/
def Session.sources (s : Session) (a : Arguments) : Except Failure Result := do
  let workspace ← s.loadWorkspace a
  let project ← selectProject workspace a.project
  let p := workspace.toProject s.runtime project
  let selection := ⟨(given a.configuration).or workspace.activeConfiguration⟩
  let shared := p.declaredSources.filter fun path ↦ p.IsShared path
  let others := p.declaredSources.filter fun path ↦ ¬p.IsShared path
  return .sources p.name (p.selector selection) (shared ++ others)

theorem Session.gives_of_sources (hcommand : a.command = .sources) (h : s.sources a = .ok r) :
    s.Gives a r := by
  obtain ⟨workspace, hworkspace, h⟩ := bind_eq_ok_iff.mp h
  obtain ⟨project, hproject, h⟩ := bind_eq_ok_iff.mp h
  obtain rfl := Except.ok.inj h
  rw [← Project.compiledFiles_eq]
  exact .sources hcommand ⟨workspace, project, hworkspace, hproject, rfl, rfl⟩

/-- What a command line over the source files asks for, and the sources. -/
def sourcesView (words : List String) : Option (Command × Bool × Result) := do
  let a ← (Arguments.ofTexts words).toOption
  let s ← (Session.start .cli sourceFiles [] a).toOption
  let r ← (s.sources a).toOption
  return (a.command, a.json, r)

theorem gives_of_sourcesView {json : Bool} (hview : sourcesView words = some (.sources, json, r))
    (ha : Arguments.ofTexts words = .ok a) (hs : Session.start .cli sourceFiles [] a = .ok s) :
    a.json = json ∧ s.Gives a r := by
  rw [sourcesView, ha] at hview
  simp only [Except.toOption, Option.bind_eq_bind, Option.bind_some, hs] at hview
  cases hsources : s.sources a with
  | error failure =>
    rw [hsources] at hview
    cases hview
  | ok found =>
    rw [hsources] at hview
    obtain ⟨hcommand, hview⟩ := Prod.mk.inj (Option.some.inj hview)
    obtain ⟨hjson, rfl⟩ := Prod.mk.inj hview
    exact ⟨hjson, Session.gives_of_sources hcommand hsources⟩

/-- The sources are listed line by line for people and in one object for programs. Where no
framework is installed, that is all that is said, in either form. -/
theorem run_complete_sources :
    (∃ outcome, runWith .cli sourceFiles []
          ["sources", "--workspace=/ws.json", "--mono-prefix=/mono"] = .finished outcome
      ∧ outcome.exitCode = 0 ∧ PrintsLines outcome.output ["/A.fs", "/B.fs"])
    ∧ (∃ outcome, runWith .cli sourceFiles []
          ["sources", "--workspace=/ws.json", "--mono-prefix=/mono", "--json"] = .finished outcome
      ∧ outcome.exitCode = 0
      ∧ PrintsObject outcome.output
        [("project", .string "App"), ("configuration", .string "Default"),
          ("sources", .array [.string "/A.fs", .string "/B.fs"])])
    ∧ (∃ outcome, runWith .cli (.empty "/") [] ["frameworks", "--mono-prefix=/mono"]
        = .finished outcome
      ∧ outcome.exitCode = 2 ∧ outcome.output = "")
    ∧ ∃ outcome d, runWith .cli (.empty "/") [] ["frameworks", "--mono-prefix=/mono", "--json"]
        = .finished outcome
      ∧ outcome.exitCode = 2
      ∧ PrintsObject outcome.output
        [("error", .object (Diagnostic.fields d)), ("ok", .bool false)] := by
  have hviews :
      sourcesView ["sources", "--workspace=/ws.json", "--mono-prefix=/mono"]
          = some (.sources, false, .sources "App" "Default" ["/A.fs", "/B.fs"])
        ∧ sourcesView ["sources", "--workspace=/ws.json", "--mono-prefix=/mono", "--json"]
          = some (.sources, true, .sources "App" "Default" ["/A.fs", "/B.fs"]) := by
    decide +kernel
  have hcodes :
      (runWith .cli sourceFiles [] ["sources", "--workspace=/ws.json",
          "--mono-prefix=/mono"]).exitCode? = some 0
        ∧ (runWith .cli sourceFiles [] ["sources", "--workspace=/ws.json", "--mono-prefix=/mono",
          "--json"]).exitCode? = some 0
        ∧ (runWith .cli (.empty "/") [] ["frameworks", "--mono-prefix=/mono"]).exitCode? = some 2
        ∧ (runWith .cli (.empty "/") [] ["frameworks", "--mono-prefix=/mono",
          "--json"]).exitCode? = some 2 := by
    decide +kernel
  have hforms : (Arguments.ofTexts ["frameworks", "--mono-prefix=/mono"]).toOption.map (·.json)
        = some false
      ∧ (Arguments.ofTexts ["frameworks", "--mono-prefix=/mono", "--json"]).toOption.map (·.json)
        = some true := by
    decide +kernel
  obtain ⟨hlines, hobject, hsilent, herror⟩ := hcodes
  refine ⟨?_, ?_, ?_, ?_⟩
  · obtain ⟨outcome, hrun, hcode⟩ := Ending.exists_of_exitCode? hlines
    obtain ⟨a, s, ha, hs, -, -, -, -, -, hresult⟩ := run_complete hrun
    obtain ⟨hjson, hgives⟩ := gives_of_sourcesView hviews.1 ha hs
    exact ⟨outcome, hrun, hcode, (hresult _ hgives).1 hjson⟩
  · obtain ⟨outcome, hrun, hcode⟩ := Ending.exists_of_exitCode? hobject
    obtain ⟨a, s, ha, hs, -, -, -, -, -, hresult⟩ := run_complete hrun
    obtain ⟨hjson, hgives⟩ := gives_of_sourcesView hviews.2 ha hs
    exact ⟨outcome, hrun, hcode, (hresult _ hgives).2 hjson⟩
  · obtain ⟨outcome, hrun, hcode⟩ := Ending.exists_of_exitCode? hsilent
    obtain ⟨a, s, ha, -, htwo, -, -, -, hreport, -⟩ := run_complete hrun
    obtain ⟨d, hd⟩ := htwo.mp hcode
    obtain ⟨a', ha', hjson⟩ := exists_ok_of_map_toOption hforms.1
    obtain rfl := Except.ok.inj (ha.symm.trans ha')
    exact ⟨outcome, hrun, hcode, ((hreport d hd).1 hjson).1⟩
  · obtain ⟨outcome, hrun, hcode⟩ := Ending.exists_of_exitCode? herror
    obtain ⟨a, s, ha, -, htwo, -, -, -, hreport, -⟩ := run_complete hrun
    obtain ⟨d, hd⟩ := htwo.mp hcode
    obtain ⟨a', ha', hjson⟩ := exists_ok_of_map_toOption hforms.2
    obtain rfl := Except.ok.inj (ha.symm.trans ha')
    exact ⟨outcome, d, hrun, hcode, (hreport d hd).2 hjson⟩

end FSharpFlags
