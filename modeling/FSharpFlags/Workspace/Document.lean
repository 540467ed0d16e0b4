import FSharpFlags.FileSystem.Basic
import FSharpFlags.Json.Parser
import FSharpFlags.Workspace.Basic

/-!
# Workspace documents

A document is a JSON object with a format mark, a version and a list of projects. Relative paths
in a project are taken from the directory of its project file, and the project file from the
directory of the document. Whatever the document may hold is checked before it is used; the checks
are made in a fixed order, and the first that fails decides what is reported.
-/

namespace FSharpFlags

/-- A path read from a text, seen from a directory and brought to its normal form. -/
def Path.located (base : Path) (text : String) : String := (base.child text).normal.text

namespace Document

open Json (Members)

/-- Where in a document something is read. -/
structure Site where
  /-- The path of the document. -/
  path : String
  /-- The name of the project. -/
  project : String
  /-- The directory of the project file. -/
  base : Path

/-- A fault in a project. -/
def Site.fail {α : Type} (site : Site) (fault : WorkspaceFault) : Except Failure α :=
  .error (fault.report site.path (some site.project))

/-- The texts of a list, when it holds nothing else. -/
def strings? : List Json → Option (List String)
  | [] => some []
  | .string text :: rest => (strings? rest).map (text :: ·)
  | _ => none

/-- A list of texts; nothing stands for the empty list. -/
def readStrings (site : Site) (what : String) : Option Json → Except Failure (List String)
  | none | some .null => .ok []
  | some (.array items) =>
    match strings? items with
    | some texts => .ok texts
    | none => site.fail (.notStrings what)
  | some _ => site.fail (.notStrings what)

/-- Whether a member, if there is one, is a boolean. -/
def isBooleanField (members : Members) (field : String) : Bool :=
  match Json.get? members field with
  | none | some (.bool _) => true
  | some _ => false

/-- Whether a member, if there is one, is a text. -/
def isStringField (members : Members) (field : String) : Bool :=
  match Json.get? members field with
  | none | some (.string _) => true
  | some _ => false

/-- The boolean of a member, or the given one when there is none. -/
def booleanOr (members : Members) (field : String) (fallback : Bool) : Bool :=
  match Json.get? members field with
  | some value => value.isTruthy
  | none => fallback

/-- The text shown for a member, or the given one when there is none. -/
def shownOr (members : Members) (field fallback : String) : String :=
  match Json.get? members field with
  | some value => value.shown
  | none => fallback

/-- A member that counts as true. -/
def truthy? (members : Members) (field : String) : Option Json :=
  (Json.get? members field).filter Json.isTruthy

/-- Reads a configuration and the explicit output that it may have. -/
def readConfiguration (site : Site) (name : String) :
    Json → Except Failure (Configuration × Option String)
  | .object members => do
    let kind := (Json.get? members "kind").getD (.string "dotnet")
    match kind with
    | .string "plain" => return (.plain name, none)
    | .string "dotnet" =>
      for field in ["debug_symbols", "optimize", "tailcalls"] do
        if !isBooleanField members field then site.fail (.fieldNotBoolean name field)
      for field in ["debug_type", "other_flags", "output"] do
        if !isStringField members field then site.fail (.fieldNotString name field)
      let defines ← readStrings site s!"configuration '{name}' defines"
        (Json.get? members "defines")
      let settings : CompilerSettings :=
        { name
          defines
          debugSymbols := booleanOr members "debug_symbols" false
          debugType := shownOr members "debug_type" ""
          optimize := booleanOr members "optimize" false
          tailcalls := booleanOr members "tailcalls" true
          otherFlags := shownOr members "other_flags" "" }
      let output := (truthy? members "output").map fun value ↦ site.base.located value.shown
      return (.compiled settings, output)
    | other => site.fail (.unknownConfigurationKind name other.shown)
  | _ => site.fail (.configurationNotObject name)

/-- Reads an assembly of a package. -/
def readPackageAssembly (site : Site) : Json → Except Failure PackageAssembly
  | .object members =>
    match Json.get? members "name", Json.get? members "location" with
    | some (.string name), some (.string location) =>
      .ok ⟨name, shownOr members "full_name" name, site.base.located location⟩
    | _, _ => site.fail .packageAssemblyIncomplete
  | _ => site.fail .packageAssemblyIncomplete

/-- The elements of a value that counts as true; of an object these are its keys, of a text its
characters. -/
def elements : Json → Except Failure (List Json)
  | .array items => .ok items
  | .object members => .ok (members.map fun m ↦ .string m.1)
  | .string text => .ok (text.toList.map fun c ↦ .string (String.singleton c))
  | _ => .error .assembliesNotListed

/-- Reads a package; nothing stands for no package. -/
def readPackage (site : Site) : Option Json → Except Failure (Option Package)
  | none | some .null => .ok none
  | some (.object members) =>
    match Json.get? members "name" with
    | some (.string name) => do
      let items ←
        match truthy? members "assemblies" with
        | some value => elements value
        | none => .ok []
      return some ⟨name, ← items.mapM (readPackageAssembly site)⟩
    | _ => site.fail .packageWithoutName
  | some _ => site.fail .packageWithoutName

/-- The kind of a reference, an assembly unless another one is given. -/
def readKind (site : Site) : Option Json → Except Failure ReferenceKind
  | none => .ok .assembly
  | some value =>
    let kind? :=
      match value with
      | .string text => ReferenceKind.ofText? text
      | _ => none
    match kind? with
    | some kind => .ok kind
    | none => site.fail (.unknownReferenceKind value.shown)

/-- Reads a hint path; nothing stands for no hint. -/
def readHint (site : Site) (identity : String) : Option Json → Except Failure (Option String)
  | none | some .null => .ok none
  | some (.string text) => .ok (some text)
  | some _ => site.fail (.hintNotString identity)

/-- The text of a member that is not empty. -/
def nonEmptyString? (members : Members) (field : String) : Option String :=
  match Json.get? members field with
  | some (.string text) => if text.isEmpty then none else some text
  | _ => none

/-- Reads a declared reference. -/
def readReference (site : Site) : Json → Except Failure DeclaredReference
  | .object members => do
    let kind ← readKind site (Json.get? members "kind")
    match nonEmptyString? members "identity" with
    | none => site.fail .referenceWithoutIdentity
    | some identity =>
      let hintPath ← readHint site identity (Json.get? members "hint_path")
      let package ← readPackage site (Json.get? members "package")
      return {
        kind, identity, hintPath, package
        sharedAssets := booleanOr members "shared_assets" false }
  | _ => site.fail .referenceNotObject

/-- Reads an item of a project. -/
def readFile (site : Site) : Json → Except Failure ProjectFile
  | .object members =>
    match Json.get? members "path" with
    | some (.string path) =>
      .ok {
        path := site.base.located path
        buildAction := shownOr members "build_action" "Compile"
        virtualPath := shownOr members "virtual_path" path
        isDirectory := booleanOr members "is_directory" false }
    | _ => site.fail .fileNotObject
  | _ => site.fail .fileNotObject

/-- Reads the framework of a project; what is not given is the desktop framework 4.5. -/
def readFramework (site : Site) : Option Json → Except Failure Moniker
  | none => .ok ⟨Moniker.desktop, "4.5", ""⟩
  | some (.object members) =>
    .ok {
      identifier := shownOr members "identifier" Moniker.desktop
      version := shownOr members "version" "4.5"
      profile := ((truthy? members "profile").map Json.shown).getD "" }
  | some _ => site.fail .frameworkNotObject

/-- Reads the configurations of a project. -/
def readConfigurations (site : Site) :
    Option Json → Except Failure (List (String × (Configuration × Option String)))
  | none => .ok []
  | some (.object members) => members.mapM fun m ↦ do
    return (m.1, ← readConfiguration site m.1 m.2)
  | some _ => site.fail .configurationsNotObject

/-- The items of a member that counts as true, when it is a list; no such member stands for the
empty list. -/
def listOr? (members : Members) (field : String) : Option (List Json) :=
  match truthy? members field with
  | none => some []
  | some (.array items) => some items
  | some _ => none

/-- Reads a text that may be missing. -/
def readOptionalString (failure : Failure) : Option Json → Except Failure (Option String)
  | none | some .null => .ok none
  | some (.string text) => .ok (some text)
  | some _ => .error failure

/-- The keys that are not among the allowed ones, in order. -/
def unknownKeys (members : Members) (allowed : List String) : List String :=
  FileSystem.sortedNames ((members.map (·.1)).filter fun key ↦ !allowed.contains key)

/-- The fields of a project. -/
def projectFields : List String :=
  ["name", "file", "target_framework", "compile_target", "default_configuration",
    "configurations", "references", "referenced_assemblies", "files", "x"]

/-- The fields of a document. -/
def topFields : List String := ["format", "version", "active_configuration", "projects", "x"]

/-- Reads the contents of a project whose name and file are known. -/
def readContents (site : Site) (fileName : String) (members : Members) :
    Except Failure WorkspaceProject := do
  let framework ← readFramework site (truthy? members "target_framework")
  let configurations ← readConfigurations site (truthy? members "configurations")
  match listOr? members "references", listOr? members "files" with
  | some references, some files =>
    let defaultConfiguration ← readOptionalString
      (WorkspaceFault.defaultNotString.report site.path (some site.project))
      (Json.get? members "default_configuration")
    let references ← references.mapM (readReference site)
    let assemblies ← readStrings site "referenced_assemblies"
      (Json.get? members "referenced_assemblies")
    let files ← files.mapM (readFile site)
    return {
      name := site.project
      fileName
      framework
      compileTarget := shownOr members "compile_target" "exe"
      defaultConfiguration
      configurations := configurations.map fun c ↦ (c.1, c.2.1)
      outputs := configurations.filterMap fun c ↦ c.2.2.map (c.1, ·)
      references
      hostAssemblies := assemblies.map site.base.located
      files }
  | _, _ => site.fail .itemsNotLists

/-- Reads a project. -/
def readProject (path : Path) : Json → Except Failure WorkspaceProject
  | .object members =>
    match nonEmptyString? members "name" with
    | none => .error (WorkspaceFault.projectWithoutName.report path.text none)
    | some name =>
      let fail := fun (fault : WorkspaceFault) ↦ .error (fault.report path.text (some name))
      match unknownKeys members projectFields with
      | [] =>
        match nonEmptyString? members "file" with
        | none => fail .projectWithoutFile
        | some file =>
          let fileName := path.parent.located file
          readContents ⟨path.text, name, (Path.parse fileName).parent⟩ fileName members
      | unknown => fail (.unknownProjectFields unknown)
  | _ => .error (WorkspaceFault.projectNotObject.report path.text none)

/-- Reads the projects that follow the given ones; names may not repeat. -/
def readProjects (path : Path) (before : List WorkspaceProject) :
    List Json → Except Failure (List WorkspaceProject)
  | [] => .ok before
  | item :: rest => do
    let project ← readProject path item
    if before.any (·.name = project.name) then
      throw ((WorkspaceFault.duplicateProject project.name).report path.text (some project.name))
    else readProjects path (before ++ [project]) rest

/-- Whether the document has the known format and version. -/
def isSupported (members : Members) : Bool :=
  (match Json.get? members "format" with
    | some (.string format) => format = "fsbind-workspace"
    | _ => false)
    && ((Json.get? members "version").map Json.isZero).getD false

/-- Reads a document. -/
def readWorkspace (path : Path) : Json → Except Failure Workspace
  | .object members => do
    let fail := fun (fault : WorkspaceFault) ↦ fault.report path.text none
    if !isSupported members then throw (fail .unsupportedFormat)
    let unknown := unknownKeys members topFields
    if !unknown.isEmpty then throw (fail (.unknownTopFields unknown))
    let active ← readOptionalString (fail .activeNotString)
      (Json.get? members "active_configuration")
    match Json.get? members "projects" with
    | some (.array items) => return ⟨path.text, active, ← readProjects path [] items⟩
    | _ => throw (fail .projectsNotList)
  | _ => .error (WorkspaceFault.notObject.report path.text none)

end Document

/-- Loads the workspace whose document lies at a path. A document with a string that is no text is
beyond what is modelled: it ends the loading like bytes that are no text. -/
def Workspace.load (fs : FileSystem) (path : Path) : Except Failure Workspace :=
  match fs.read path.text with
  | .error failure =>
    if failure.isFileFault then
      .error ((WorkspaceFault.unavailable failure).report path.text none)
    else .error failure
  | .ok bytes =>
    match String.fromUTF8? bytes with
    | none => .error .notUtf8
    | some text =>
      let cs := Text.withLineFeeds text.toList
      match Json.read cs with
      | .error (.malformed cause offset) =>
        .error ((WorkspaceFault.notJson cause (Position.after offset cs)).report path.text none)
      | .error (.unreadableNumber failure) => .error failure
      | .error .unpairedHalf => .error .notUtf8
      | .ok document => Document.readWorkspace path document

end FSharpFlags
