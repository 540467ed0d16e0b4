import FSharpFlags.Text.Quoted

/-!
# Events

Looking for references and tools is mostly done by trying, and what was tried is part of the
answer: warnings for what stays unresolved, remarks that explain a result, and the queries put to
the parts of the world that are expensive to ask. All of them are values of one type, in the order
in which they happen. An event that people may read has a level, a source and a message; a query
has none of these.
-/

namespace FSharpFlags

/-- How much a remark matters. -/
inductive Level where
  | debug
  | warning
  deriving DecidableEq, Repr

/-- The name of a level at the head of a line. -/
def Level.label : Level → String
  | .debug => "DEBUG"
  | .warning => "WARNING"

/-- Something that happened on the way to a result. -/
inductive Event where
  /-- Extra flags were split at every blank because they do not scan. -/
  | unscannedFlags (text : String)
  /-- A dependency of an assembly was not found. -/
  | dependencyMissing (name version referencing : String)
  /-- The reference table of an assembly could not be read for its portability. -/
  | referencesUnread (path status : String)
  /-- Reading the attributes of an assembly failed on the way to its bytes. -/
  | attributesUnread (path : String)
  /-- An assembly is in none of the default directories. -/
  | defaultMissing (name : String) (directories : List String)
  /-- The reference table of the language core could not be read. -/
  | coreUnread (path status detail : String)
  /-- A core assembly stays unresolved. -/
  | coreUnresolved (name : String)
  /-- The host is asked for the assemblies of a project. -/
  | askedAssemblies (project : String)
  /-- The runtime is asked for its facades. -/
  | askedFacades
  /-- The inspector is asked for the reference table of a file. -/
  | askedReferences (path : String)
  /-- The inspector is asked for the target framework of a file. -/
  | askedFramework (path : String)
  /-- A tool was found by the labelled strategy. -/
  | toolFound (path label : String)
  deriving DecidableEq, Repr

namespace Event

/-- The level of an event that is a remark. -/
def level? : Event → Option Level
  | .coreUnresolved _ => some .warning
  | .askedFacades | .askedReferences _ | .askedFramework _ => none
  | _ => some .debug

/-- The part of the program that makes the remark. -/
def source : Event → String
  | .unscannedFlags _ => "fsbind.fscargs.grammar"
  | .dependencyMissing .. => "fsbind.fscargs.metadata"
  | .referencesUnread .. | .attributesUnread _ => "fsbind.fscargs.portability"
  | .defaultMissing .. => "fsbind.fscargs.environment"
  | .coreUnread .. | .coreUnresolved _ => "fsbind.fscargs.reconcile"
  | .askedAssemblies _ => "fsbind.fscargs.options"
  | .toolFound .. => "fsbind.fscargs.tools"
  | .askedFacades | .askedReferences _ | .askedFramework _ => ""

/-- The wording of the remark. -/
def message : Event → String
  | .unscannedFlags text =>
    s!"unbalanced quotes in extra flags, splitting on whitespace: {text}"
  | .dependencyMissing name version referencing =>
    s!"could not locate {name} {version} referenced from {referencing}"
  | .referencesUnread path status =>
    s!"cannot read references of {path} ({status}): treating as not portable"
  | .attributesUnread path => s!"I/O failure reading attributes of {path}: treating as portable"
  | .defaultMissing name directories =>
    s!"{name} not found in default directories: {quotedList directories}"
  | .coreUnread path status detail => s!"cannot read references of {path} ({status}): {detail}"
  | .coreUnresolved name =>
    "Resolution: Assembly resolution failed when trying to find default reference for: " ++ name
  | .askedAssemblies project => s!"Fetching referenced assemblies for {project}"
  | .toolFound path label => s!"found {path} via {label}"
  | .askedFacades | .askedReferences _ | .askedFramework _ => ""

/-- Whether the event is a warning. -/
def isWarning (e : Event) : Bool := e.level? = some .warning

/-- The line that shows a remark, if it matters enough. -/
def line? (verbose : Bool) (e : Event) : Option String :=
  match e.level? with
  | none => none
  | some level =>
    if verbose || level = .warning then some s!"{level.label} {e.source}: {e.message}" else none

end Event

end FSharpFlags
