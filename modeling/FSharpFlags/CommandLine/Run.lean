import FSharpFlags.CommandLine.Arguments
import FSharpFlags.Flags.Generation
import FSharpFlags.Json.Compact
import FSharpFlags.Metadata.Reader
import FSharpFlags.Runtime.MonoInstall
import FSharpFlags.Tool.Search
import FSharpFlags.Workspace.Document

/-!
# Running a command

A run is a function of the file system, the variables of the process and the words of the command
line, and of the parser that makes out what is in an image. Its answer has two forms, lines for
people and a value for programs, and the choice between them is made when all else is done. A
reported condition is an answer too, with the exit code 2; any other failure ends the run without
one.
-/

namespace FSharpFlags

/-- What a command answers. -/
structure Answer where
  /-- The answer as a value. -/
  value : Json
  /-- The answer as lines. -/
  lines : List String
  /-- Whether what was asked for is there. -/
  isFound : Bool := true

/-- What a run leaves behind. -/
structure Outcome where
  /-- The exit code. -/
  exitCode : Nat
  /-- The text written to the standard output. -/
  output : String
  /-- The text written to the standard error. -/
  remarks : String
  deriving DecidableEq, Repr

/-- How a run ends. -/
inductive Ending where
  /-- The command line asks for no run. -/
  | stopped (stop : Stop)
  /-- The run is complete. -/
  | finished (outcome : Outcome)
  /-- The run ends in a failure that nobody reports. -/
  | failed (failure : Failure)
  deriving DecidableEq, Repr

/-- Where a command runs. -/
structure Session where
  /-- The parser of images. -/
  parser : ImageParser
  /-- The file system. -/
  fs : FileSystem
  /-- The variables of the process. -/
  vars : Variables
  /-- The compiler environment. -/
  env : CompilerEnvironment
  /-- The target runtime. -/
  runtime : TargetRuntime

namespace Session

/-- The root of the Mono installation that an environment belongs to. -/
def monoRoot (env : CompilerEnvironment) : Path :=
  match given env.runtimeDirectory with
  | some directory => (Path.parse directory).parent
  | none => Path.parse "/usr/lib/mono"

/-- The session for a command line: of the Mono installation that it names, else of the one that
the variables describe. -/
def start (parser : ImageParser) (fs : FileSystem) (vars : Variables) (a : Arguments) :
    Except Failure Session :=
  match a.monoRoot with
  | .text text =>
    let root := Path.parse text
    .ok ⟨parser, fs, vars, .ofMonoRoot root, MonoInstall.runtime fs root⟩
  | .absent =>
    let env := CompilerEnvironment.ofVariables fs vars
    .ok ⟨parser, fs, vars, env, MonoInstall.runtime fs (monoRoot env)⟩
  | .blank => .error .noMonoRoot

/-- Where tools are looked for. -/
def tools (s : Session) : ToolContext := ⟨s.fs, s.runtime, s.env, s.vars⟩

/-- The answer that tells a framework. -/
def tellFramework (s : Session) : Attempt Answer := do
  let moniker := (← s.runtime.defaultFramework).moniker
  return {
    value := .object [("identifier", .string moniker.identifier),
      ("profile", .string moniker.profile), ("version", .string moniker.version)]
    lines := [moniker.text] }

/-- The answer that tells where something lies. -/
def tellPlace (place : Option String) : Answer where
  value := .object [("found", .bool place.isSome), ("path", .ofText? place)]
  lines := place.toList
  isFound := place.isSome

/-- The answer that lists texts about a project. -/
def tellList (p : Project) (selection : Selection) (key : String) (texts : List String) :
    Answer where
  value := .object [("project", .string p.name), ("configuration", .string (p.selector selection)),
    (key, .ofTexts texts)]
  lines := texts

/-- The options for generating flags. -/
def generationOptions (s : Session) (a : Arguments) : GenerationOptions where
  env := s.env
  inspector := .ofParser s.parser s.fs
  language := a.language
  wrap := a.wrap

/-- The answer about a project under a selection. -/
def tellProject (s : Session) (a : Arguments) (p : Project) (selection : Selection) :
    Attempt Answer := do
  if a.command = .sources then return tellList p selection "sources" p.compiledFiles
  let settings ← p.requireSettings selection
  let options := s.generationOptions a
  let flags ←
    if a.command = .references then p.referenceFlags s.fs selection options
    else p.compilerFlags s.fs settings selection options
  return tellList p selection "arguments" flags

/-- Loads the workspace that a command line asks for. -/
def loadWorkspace (s : Session) (a : Arguments) : Except Failure Workspace :=
  match a.workspace with
  | some path => Workspace.load s.fs (Path.parse path)
  | none => .error .noWorkspacePath

/-- The failure to find a project without a name. -/
def namelessProject (workspace : Workspace) : Failure :=
  .report {
    kind := .workspaceFormat
    message := (WorkspaceFault.unknownProject "[]").message
    isNameless := true
    path := some workspace.path }

/-- The project of a workspace that a command line asks for. -/
def selectProject (workspace : Workspace) : OptionValue → Except Failure WorkspaceProject
  | .absent => workspace.select none
  | .blank => .error (namelessProject workspace)
  | .text name => workspace.select (some name)

/-- The answer about a project of the workspace. -/
def tellWorkspace (s : Session) (a : Arguments) : Attempt Answer := do
  let workspace ← s.loadWorkspace a
  let project ← selectProject workspace a.project
  s.tellProject a (workspace.toProject s.runtime project)
    ⟨(given a.configuration).or workspace.activeConfiguration⟩

/-- The answer to a command. -/
def answer (s : Session) (a : Arguments) : Attempt Answer :=
  match a.command with
  | .framework => s.tellFramework
  | .tool => do return tellPlace (← s.tools.locate (a.operand.getD ""))
  | .compiler => do return tellPlace (← s.tools.compiler)
  | .interactive => do return tellPlace (← s.tools.interactive)
  | .flags | .references | .sources => s.tellWorkspace a

end Session

/-- A diagnostic as a value. -/
def Diagnostic.value (d : Diagnostic) : Json :=
  .object [("message", .string d.message), ("path", .ofText? d.path),
    ("project", if d.isNameless then .array [] else .ofText? d.project),
    ("reason_code", .string d.reasonCode)]

/-- Lines, each with its end. -/
def joinLines (lines : List String) : String := "".intercalate (lines.map (· ++ "\n"))

namespace Arguments

/-- The lines of an answer, in the form asked for. -/
def answerLines (a : Arguments) (answer : Answer) : List String :=
  if a.json then [answer.value.compact] else answer.lines

/-- What is said when something is not found; a value says it by itself. -/
def absenceLines (a : Arguments) (answer : Answer) : List String :=
  if answer.isFound || a.json then [] else [a.command.word ++ ": not found"]

/-- The outcome of an attempt at an answer. -/
def conclude (a : Arguments) (attempt : Attempt Answer) : Ending :=
  let remarks := attempt.events.filterMap (·.line? a.verbose)
  match attempt.outcome with
  | .ok answer =>
    .finished ⟨if answer.isFound then 0 else 1, joinLines (a.answerLines answer),
      joinLines (remarks ++ a.absenceLines answer)⟩
  | .error (.report d) =>
    if a.json then
      let value : Json := .object [("error", d.value), ("ok", .bool false)]
      .finished ⟨2, joinLines [value.compact], joinLines remarks⟩
    else .finished ⟨2, "", joinLines (remarks ++ [d.line])⟩
  | .error failure => .failed failure

end Arguments

/-- Runs the command line given by its words, with a parser of images. -/
def runWith (parser : ImageParser) (fs : FileSystem) (vars : Variables) (words : List String) :
    Ending :=
  match Arguments.ofTexts words with
  | .error stop => .stopped stop
  | .ok a =>
    match Session.start parser fs vars a with
    | .error failure => .failed failure
    | .ok session => a.conclude (session.answer a)

/-- Runs the command line given by its words. -/
def run (fs : FileSystem) (vars : Variables) (words : List String) : Ending :=
  runWith .cli fs vars words

end FSharpFlags
