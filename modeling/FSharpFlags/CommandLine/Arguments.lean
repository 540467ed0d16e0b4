import FSharpFlags.Framework.Generation
import FSharpFlags.Text.Digit

/-!
# Command-line arguments

A command line is a command followed by options and, for one command, an operand. An option may be
shortened to any beginning that it alone has, and its value follows in the next word or after an
equals sign. A word is classified by itself: what begins with a hyphen is an option unless it is a
hyphen alone, a negative number or has a space in it; behind a double hyphen every word is an
operand. A double hyphen after an equals sign is the same mark and no value, so that the option is
there but blank.

Words are taken from left to right, and the first that settles the matter does so: a request for
help ends the reading at once, a missing or inadmissible value is a mistake. Words that nobody
takes are a mistake too, but only when the end is reached.
-/

namespace FSharpFlags

/-- What the program is asked for. -/
inductive Command where
  /-- The flags of a project. -/
  | flags
  /-- The reference flags of a project. -/
  | references
  /-- The source files of a project. -/
  | sources
  /-- The default framework of the runtime. -/
  | framework
  /-- Where a tool lies. -/
  | tool
  /-- Where the compiler lies. -/
  | compiler
  /-- Where the interactive shell lies. -/
  | interactive
  deriving DecidableEq, Repr

namespace Command

/-- The word for a command. -/
def word : Command → String
  | .flags => "args"
  | .references => "refs"
  | .sources => "sources"
  | .framework => "frameworks"
  | .tool => "tool"
  | .compiler => "compiler"
  | .interactive => "interactive"

/-- Every command. -/
def all : List Command :=
  [.flags, .references, .sources, .framework, .tool, .compiler, .interactive]

/-- The command of a word. -/
def ofWord? (word : String) : Option Command := all.find? (·.word = word)

theorem ofWord?_word (c : Command) : ofWord? c.word = some c := by
  cases c <;> decide

end Command

/-- An option of the command line. -/
inductive Switch where
  | help
  | workspace
  | project
  | configuration
  | monoPrefix
  | languageVersion
  | wrap
  | json
  | verbose
  deriving DecidableEq, Repr

namespace Switch

/-- The name of an option, without the hyphens. -/
def name : Switch → String
  | .help => "help"
  | .workspace => "workspace"
  | .project => "project"
  | .configuration => "configuration"
  | .monoPrefix => "mono-prefix"
  | .languageVersion => "lang-version"
  | .wrap => "wrap"
  | .json => "json"
  | .verbose => "verbose"

/-- Every option of a command. -/
def all : List Switch :=
  [.help, .workspace, .project, .configuration, .monoPrefix, .languageVersion, .wrap, .json,
    .verbose]

/-- Whether an option takes a value. -/
def takesValue : Switch → Bool
  | .workspace | .project | .configuration | .monoPrefix | .languageVersion => true
  | _ => false

/-- The options whose names begin with the given characters. -/
def candidates (known : List Switch) (beginning : List Char) : List Switch :=
  known.filter fun s ↦ beginning.isPrefixOf s.name.toList

end Switch

/-- What a word of the command line is. -/
inductive Word where
  /-- A word that stands for itself. -/
  | operand (text : String)
  /-- The mark behind which every word is an operand. -/
  | separator
  /-- An option, with the value that is attached to it. -/
  | switch (s : Switch) (attached : Option String)
  /-- A shortened option that several options may be. -/
  | ambiguous
  /-- An option that is not known. -/
  | unknown
  deriving DecidableEq, Repr

namespace Word

/-- Whether the characters after a hyphen form a number, a line feed behind it aside. -/
def isNumber (cs : List Char) : Bool :=
  let body := if cs.getLast? = some '\n' then cs.dropLast else cs
  match body.splitOn '.' with
  | [whole] => !whole.isEmpty && whole.all Text.isDecimalDigit
  | [whole, fraction] =>
    whole.all Text.isDecimalDigit && !fraction.isEmpty && fraction.all Text.isDecimalDigit
  | _ => false

/-- A word that begins with a hyphen and names no known option. -/
def unmatched (text : String) : Word :=
  if isNumber (text.toList.drop 1) || text.toList.contains ' ' then .operand text else .unknown

/-- What is attached to an option, given what follows the beginning of its name. -/
def attachment : List Char → Option String
  | '=' :: value => some (String.ofList value)
  | _ => none

/-- A word that begins with two hyphens, by what follows them. -/
def classifyLong (known : List Switch) (text : String) (cs : List Char) : Word :=
  let beginning := cs.takeWhile (· ≠ '=')
  match Switch.candidates known beginning with
  | [] => unmatched text
  | [s] => .switch s (attachment (cs.drop beginning.length))
  | _ => .ambiguous

/-- A word that begins with `-h`, by what follows it: further letters `h` change nothing, anything
else is an attached value. -/
def classifyShort (cs : List Char) : Word :=
  match cs.dropWhile (· = 'h') with
  | [] => .switch .help none
  | rest => .switch .help (some (String.ofList rest))

/-- What a word is, given the known options. -/
def classify (known : List Switch) (text : String) : Word :=
  match text.toList with
  | ['-', '-'] => .separator
  | '-' :: '-' :: rest => classifyLong known text rest
  | '-' :: 'h' :: rest => classifyShort rest
  | '-' :: _ :: _ => unmatched text
  | _ => .operand text

/-- The words of a command line. -/
def ofTexts (known : List Switch) : List String → List Word
  | [] => []
  | text :: rest =>
    match classify known text with
    | .separator => .separator :: rest.map .operand
    | word => word :: ofTexts known rest

end Word

/-- Why a command line asks for no run. -/
inductive Stop where
  /-- It asks for help. -/
  | help
  /-- It has a mistake. -/
  | mistake
  deriving DecidableEq, Repr

/-- The exit code when there is no run. -/
def Stop.exitCode : Stop → Nat
  | .help => 0
  | .mistake => 2

/-- What a command line says by an option that takes a text. -/
inductive OptionValue where
  /-- The option is not there. -/
  | absent
  /-- The option is there without a value. -/
  | blank
  /-- The value of the option. -/
  | text (value : String)
  deriving DecidableEq, Repr

/-- The value of an option that is there. -/
def OptionValue.ofText? : Option String → OptionValue
  | none => .blank
  | some value => .text value

/-- What a command line asks for. -/
structure Arguments where
  /-- The command. -/
  command : Command
  /-- The operand of the command. -/
  operand : Option String := none
  /-- The path of the workspace document. -/
  workspace : Option String := some "fsbind-workspace.json"
  /-- The name of the project. -/
  project : OptionValue := .absent
  /-- The configuration asked for. -/
  configuration : Option String := none
  /-- The root of the Mono installation. -/
  monoRoot : OptionValue := .absent
  /-- The language version asked for. -/
  language : Option LanguageVersion := none
  /-- Whether paths are wrapped in quotation marks. -/
  wrap : Bool := false
  /-- Whether the answer is a JSON text. -/
  json : Bool := false
  /-- Whether every remark is shown. -/
  verbose : Bool := false
  /-- Whether there are words that nobody takes. -/
  hasStray : Bool := false
  deriving DecidableEq, Repr

namespace Arguments

/-- Gives an option its value, or none when it is blank. A configuration and a language version
are then as good as not asked for. -/
def withValue (a : Arguments) (value : Option String) : Switch → Except Stop Arguments
  | .workspace => .ok { a with workspace := value }
  | .project => .ok { a with project := .ofText? value }
  | .configuration => .ok { a with configuration := value }
  | .monoPrefix => .ok { a with monoRoot := .ofText? value }
  | .languageVersion =>
    match value, value.bind LanguageVersion.ofText? with
    | some _, none => .error .mistake
    | _, language => .ok { a with language }
  | _ => .error .mistake

/-- The value that is attached to an option; the separator is none. -/
def attachedValue (text : String) : Option String := if text = "--" then none else some text

/-- Sets an option that takes no value. -/
def withFlag (a : Arguments) : Switch → Except Stop Arguments
  | .help => .error .help
  | .wrap => .ok { a with wrap := true }
  | .json => .ok { a with json := true }
  | .verbose => .ok { a with verbose := true }
  | _ => .error .mistake

/-- Whether the command still lacks its operand. -/
def lacksOperand (a : Arguments) : Bool := a.command = .tool && a.operand.isNone

end Arguments

/-- The state of reading the words after the command. -/
structure ArgumentReader where
  /-- What has been read. -/
  arguments : Arguments
  /-- The option that waits for its value. -/
  pending : Option Switch := none
  /-- Whether the word before was taken as the operand. -/
  tookOperand : Bool := false

namespace ArgumentReader

/-- The state in which nobody takes the present word. -/
def stray (r : ArgumentReader) : ArgumentReader :=
  ⟨{ r.arguments with hasStray := true }, none, false⟩

/-- Takes a word that stands for itself. -/
def takeOperand (r : ArgumentReader) (text : String) : ArgumentReader :=
  if r.arguments.lacksOperand then ⟨{ r.arguments with operand := some text }, none, true⟩
  else r.stray

/-- Takes one word. The separator may stand before the operand or right behind it. -/
def step (r : ArgumentReader) (word : Word) : Except Stop ArgumentReader :=
  match r.pending, word with
  | some s, .operand value => return { arguments := ← r.arguments.withValue (some value) s }
  | some _, _ => .error .mistake
  | none, .switch s (some text) =>
    return { arguments := ← r.arguments.withValue (Arguments.attachedValue text) s }
  | none, .switch s none =>
    if s.takesValue then .ok ⟨r.arguments, some s, false⟩
    else return { arguments := ← r.arguments.withFlag s }
  | none, .operand text => .ok (r.takeOperand text)
  | none, .separator =>
    if r.arguments.lacksOperand || r.tookOperand then .ok { arguments := r.arguments }
    else .ok r.stray
  | none, .unknown => .ok r.stray
  | none, .ambiguous => .error .mistake

/-- What was asked for, once every word is taken. -/
def finish (r : ArgumentReader) : Except Stop Arguments :=
  if r.pending.isSome || r.arguments.hasStray || r.arguments.lacksOperand then .error .mistake
  else .ok r.arguments

end ArgumentReader

namespace Arguments

/-- Takes the words after the command; an ambiguous one is met before all others. -/
def ofWords (a : Arguments) (words : List Word) : Except Stop Arguments := do
  if words.contains .ambiguous then throw .mistake
  (← words.foldlM ArgumentReader.step { arguments := a }).finish

/-- Reads a command line; `hasStray` says whether a word before is taken by nobody. -/
def read (hasStray : Bool) : List String → Except Stop Arguments
  | [] => .error .mistake
  | text :: rest =>
    match Word.classify [.help] text with
    | .operand word =>
      match Command.ofWord? word with
      | some command => ofWords { command, hasStray } (Word.ofTexts Switch.all rest)
      | none => .error .mistake
    | .switch _ none => .error .help
    | .unknown => read true rest
    | _ => .error .mistake

/-- How the program is called. -/
def usage : String :=
  "usage: fsharp-flags COMMAND [--workspace FILE] [--project NAME] [--configuration NAME]\n"
    ++ "                    [--mono-prefix DIRECTORY] [--lang-version VERSION]\n"
    ++ "                    [--wrap] [--json] [--verbose] [NAME]\n"
    ++ "commands: " ++ ", ".intercalate (Command.all.map Command.word) ++ "\n"

/-- Reads a command line. -/
def ofTexts (texts : List String) : Except Stop Arguments := read false texts

end Arguments

end FSharpFlags
