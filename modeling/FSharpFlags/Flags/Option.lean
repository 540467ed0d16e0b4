/-!
# Compiler options

An option of the compiler as a value, and its spelling on the command line. Options that name one
path can be spelled with quotation marks around it, which are not doubled where the path already
begins with one; a resource always has them.
-/

namespace FSharpFlags

/-- How much debug information is emitted. -/
inductive DebugLevel where
  | full
  | pdbOnly
  | plus
  | minus
  deriving DecidableEq, Repr

/-- What the compiler produces. -/
inductive TargetKind where
  | library
  | module
  | exe
  deriving DecidableEq, Repr

/-- An option of the compiler. -/
inductive CompilerOption where
  /-- A flag that is passed on as it is. -/
  | rawFlag (text : String)
  /-- The file to write. -/
  | outputFile (path : String)
  /-- A preprocessor symbol. -/
  | define (symbol : String)
  /-- The debug information. -/
  | debug (level : DebugLevel)
  /-- Whether to optimise. -/
  | optimize (on : Bool)
  /-- Whether to emit tail calls. -/
  | tailcalls (on : Bool)
  /-- What to produce. -/
  | target (kind : TargetKind)
  /-- An assembly to refer to. -/
  | reference (path : String)
  /-- A resource to embed. -/
  | resource (file logicalName : String)
  /-- A file to compile. -/
  | sourceFile (path : String)
  deriving DecidableEq, Repr

/-- The name of the level. -/
def DebugLevel.text : DebugLevel → String
  | .full => "full"
  | .pdbOnly => "pdbonly"
  | .plus => "plus"
  | .minus => "minus"

/-- The spelling of the level. -/
def DebugLevel.flag : DebugLevel → String
  | .full => "--debug:full"
  | .pdbOnly => "--debug:pdbonly"
  | .plus => "--debug+"
  | .minus => "--debug-"

/-- The name of the kind. -/
def TargetKind.text : TargetKind → String
  | .library => "library"
  | .module => "module"
  | .exe => "exe"

/-- A text between quotation marks, unless it begins with one. -/
def wrapFile (text : String) : String :=
  if text.toList.head? = some '"' then text else "\"" ++ text ++ "\""

/-- A switch that is on or off. -/
def switch (name : String) (on : Bool) : String := name ++ if on then "+" else "-"

namespace CompilerOption

/-- The spelling of an option; `wrap` asks for quotation marks around its path. -/
def render (wrap : Bool) : CompilerOption → String
  | .rawFlag text => text
  | .outputFile path => "--out:" ++ file path
  | .define symbol => "--define:" ++ symbol
  | .debug level => level.flag
  | .optimize on => switch "--optimize" on
  | .tailcalls on => switch "--tailcalls" on
  | .target kind => "--target:" ++ kind.text
  | .reference path => "-r:" ++ file path
  | .resource name logicalName => "--resource:" ++ wrapFile name ++ "," ++ wrapFile logicalName
  | .sourceFile path => file path
where
  /-- The spelling of the path of an option. -/
  file (path : String) : String := if wrap then wrapFile path else path

/-- Whether the option is a reference. -/
def isReference : CompilerOption → Bool
  | .reference _ => true
  | _ => false

end CompilerOption

end FSharpFlags
