import FSharpFlags.Proofs.NumeralLimit
import FSharpFlags.Proofs.Refusal
import FSharpFlags.Proofs.Resolution

/-!
# What is said of a document that cannot be read

A document that is no workspace should be reported as one: by a diagnostic of its own kind that
names the document. Nearly every reader keeps to that. Each part of a value is tested before it is
used, and the test that fails decides what is reported.

One part is used without a test. The assemblies of a package are gone through whatever they are, and
what has no elements to go through ends the reading without a report. Whether this happens cannot be
seen from the value alone, since a fault that comes earlier is reported first. So every reader comes
here with a list: the values that it goes through as assemblies, up to the point where it ends.

The rest escapes before there is a value: a path that no system call takes, bytes that are no text,
and whole numbers with too many digits.

Two kinds of documents are outside of what is said here. A string may have half of a surrogate pair
on its own, which is no text here, while a reader of code points goes on with it; such documents are
excluded by a hypothesis. And a document may be nested more deeply than the stack of an interpreter
allows, which then ends the reading with a fault of its own; there is no such bound here.
-/

namespace FSharpFlags

/-- Whether a failure is the report of a document. -/
def Failure.IsWorkspaceReport (path : String) (failure : Failure) : Prop :=
  ∃ d, failure = .report d ∧ d.kind = .workspaceFormat ∧ d.path = some path

/-- Whether a value has elements to go through. -/
def Json.hasElements : Json → Bool
  | .array _ | .object _ | .string _ => true
  | _ => false

/-! ## Readings -/

/-- What comes after a step that goes on. -/
def after {α : Type} (x : Except Failure α) (next : α → List Json) : List Json :=
  match x with
  | .ok a => next a
  | .error _ => []

/-- Whether a reading that goes through the given values ends without a report exactly when one of
them has no elements. -/
structure Reads {α : Type} (path : String) (values : List Json) (x : Except Failure α) : Prop where
  /-- As long as all of them have elements, what fails is reported. -/
  reports : (∀ v ∈ values, v.hasElements = true) →
    ∀ failure, x = .error failure → failure.IsWorkspaceReport path
  /-- One without elements ends the reading. -/
  escapes : (∃ v ∈ values, v.hasElements = false) → x = .error .assembliesNotListed

namespace Reads

variable {α β : Type} {path : String} {values : List Json} {x : Except Failure α}

theorem ok (a : α) : Reads path [] (.ok a : Except Failure α) where
  reports _ failure h := by cases h
  escapes h := by simp at h

theorem report (fault : WorkspaceFault) (project : Option String) :
    Reads path [] (.error (fault.report path project) : Except Failure α) where
  reports _ failure h := by
    obtain rfl := Except.error.inj h
    exact ⟨_, rfl, rfl, rfl⟩
  escapes h := by simp at h

/-- **A sequence goes through what its parts go through**, the second one if it is come to. -/
theorem bind {f : α → Except Failure β} {next : α → List Json} (hx : Reads path values x)
    (hf : ∀ a, x = .ok a → Reads path (next a) (f a)) :
    Reads path (values ++ after x next) (x >>= f) where
  reports h failure hfailure := by
    rw [List.forall_mem_append] at h
    rcases bind_eq_error_iff.mp hfailure with hfailure | ⟨a, rfl, hfailure⟩
    · exact hx.reports h.1 failure hfailure
    · exact (hf a rfl).reports h.2 failure hfailure
  escapes := by
    rintro ⟨v, hv, hnone⟩
    rw [bind_eq_error_iff]
    rcases List.mem_append.mp hv with hv | hv
    · exact .inl (hx.escapes ⟨v, hv, hnone⟩)
    · cases x with
      | error failure => cases hv
      | ok a => exact .inr ⟨a, rfl, (hf a rfl).escapes ⟨v, hv, hnone⟩⟩

/-- Before steps that go through nothing, only what precedes counts. -/
theorem bind_of_nil_right {f : α → Except Failure β} (hx : Reads path values x)
    (hf : ∀ a, x = .ok a → Reads path [] (f a)) : Reads path values (x >>= f) := by
  have hafter : after x (fun _ ↦ []) = [] := by cases x <;> rfl
  have h := hx.bind hf
  rwa [hafter, List.append_nil] at h

theorem mapM {f : α → Except Failure β} {as : List α} (hf : ∀ a ∈ as, Reads path [] (f a)) :
    Reads path [] (as.mapM f) := by
  induction as with
  | nil => exact .ok []
  | cons a rest ih =>
    rw [List.forall_mem_cons] at hf
    rw [List.mapM_cons]
    exact hf.1.bind_of_nil_right fun _ _ ↦ (ih hf.2).bind_of_nil_right fun _ _ ↦ .ok _

end Reads

namespace Document

open Json (Members)

variable {site : Site} {path : Path}

/-! ## Readers that test all they use -/

/-- The value that lists the assemblies of a package. -/
def packageListing : Option Json → List Json
  | some (.object members) =>
    match Json.get? members "name" with
    | some (.string _) => (truthy? members "assemblies").toList
    | _ => []
  | _ => []

/-- The values that reading a reference goes through as assemblies. -/
def referenceListing (site : Site) : Json → List Json
  | .object members =>
    after (readKind site (Json.get? members "kind")) fun _ ↦
      match nonEmptyString? members "identity" with
      | none => []
      | some identity =>
        after (readHint site identity (Json.get? members "hint_path")) fun _ ↦
          packageListing (Json.get? members "package")
  | _ => []

/-- The values that reading references one by one goes through. -/
def referencesListing (site : Site) : List Json → List Json
  | [] => []
  | item :: rest =>
    referenceListing site item
      ++ after (readReference site item) fun _ ↦ referencesListing site rest

/-- The values that reading the contents of a project goes through. -/
def contentsListing (site : Site) (members : Members) : List Json :=
  after (readFramework site (truthy? members "target_framework")) fun _ ↦
    after (readConfigurations site (truthy? members "configurations")) fun _ ↦
      match listOr? members "references", listOr? members "files" with
      | some references, some _ =>
        after (readOptionalString
            (WorkspaceFault.defaultNotString.report site.path (some site.project))
            (Json.get? members "default_configuration")) fun _ ↦
          referencesListing site references
      | _, _ => []

/-- The values that reading a project goes through. -/
def projectListing (path : Path) : Json → List Json
  | .object members =>
    match nonEmptyString? members "name" with
    | none => []
    | some name =>
      match unknownKeys members projectFields with
      | [] =>
        match nonEmptyString? members "file" with
        | none => []
        | some file =>
          contentsListing ⟨path.text, name, (Path.parse (path.parent.located file)).parent⟩ members
      | _ => []
  | _ => []

/-- The values that reading the projects behind the given ones goes through. -/
def projectsListing (path : Path) (before : List WorkspaceProject) : List Json → List Json
  | [] => []
  | item :: rest =>
    projectListing path item ++ after (readProject path item) fun project ↦
      if before.any (·.name = project.name) then []
      else projectsListing path (before ++ [project]) rest

/-- The values that reading a document goes through as the assemblies of packages. -/
def listing (path : Path) : Json → List Json
  | .object members =>
    if isSupported members = false ∨ unknownKeys members topFields ≠ [] then []
    else after (readOptionalString (WorkspaceFault.activeNotString.report path.text none)
        (Json.get? members "active_configuration")) fun _ ↦
      match Json.get? members "projects" with
      | some (.array items) => projectsListing path [] items
      | _ => []
  | _ => []

end Document

namespace Workspace

variable {fs : FileSystem} {path : Path} {bytes : ByteArray} {text : String}

end Workspace

end FSharpFlags
