import FSharpFlags.Diagnostic
import FSharpFlags.Text.Quoted

/-!
# Failures

Every way in which an operation can end without a result, as a cause. The wording of all of them
is `Failure.message`; a cause that is never shown as text has none.
-/

namespace FSharpFlags

/-- Why the file system refused a request. -/
inductive FileFault where
  | missing
  | denied
  | notDirectory
  | isDirectory
  | nameTooLong
  deriving DecidableEq, Repr

namespace FileFault

/-- The system's number for the fault. -/
def number : FileFault → Nat
  | .missing => 2
  | .denied => 13
  | .notDirectory => 20
  | .isDirectory => 21
  | .nameTooLong => 36

/-- The system's text for the fault. -/
def text : FileFault → String
  | .missing => "No such file or directory"
  | .denied => "Permission denied"
  | .notDirectory => "Not a directory"
  | .isDirectory => "Is a directory"
  | .nameTooLong => "File name too long"

end FileFault

/-- Why a text is no framework name. -/
inductive NameFault where
  | malformed
  | emptyIdentifier
  | unknownComponent (key : String)
  | repeatedComponent (key : String)
  | invalidVersion
  deriving DecidableEq, Repr

/-- What is said of a text with the fault. -/
def NameFault.describe (text : String) : NameFault → String
  | .malformed => s!"invalid framework name: {quoted text}"
  | .emptyIdentifier => s!"framework name has an empty identifier: {quoted text}"
  | .unknownComponent key => s!"framework name has unknown component '{key}': {quoted text}"
  | .repeatedComponent key => s!"framework name repeats component '{key}': {quoted text}"
  | .invalidVersion => s!"framework name has an invalid version: {quoted text}"

/-- Why bytes are no string value of a custom attribute. -/
inductive BlobFault where
  | noProlog
  | truncatedInteger
  | invalidInteger
  | stringTooLong
  deriving DecidableEq, Repr

/-- What is said of the fault. -/
def BlobFault.text : BlobFault → String
  | .noProlog => "custom attribute blob has no prolog"
  | .truncatedInteger => "truncated compressed integer"
  | .invalidInteger => "invalid compressed integer"
  | .stringTooLong => "custom attribute string runs past the blob"

/-- Why an operation ended without a result. -/
inductive Failure where
  /-- The file system refused the path. -/
  | file (fault : FileFault) (path : String)
  /-- The path holds the character NUL, which no system call takes. -/
  | nulInPath
  /-- A numeral has more digits than are read. -/
  | oversizedNumeral (digits : Nat)
  /-- What should be a text is none: bytes are not UTF-8, or half of a surrogate pair stands on its
  own. -/
  | notUtf8
  /-- The assemblies of a package are given by a value without elements. -/
  | assembliesNotListed
  /-- The text is no framework name. -/
  | frameworkName (fault : NameFault) (text : String)
  /-- The bytes are no attribute value. -/
  | blob (fault : BlobFault)
  /-- A reference leads behind the last row of a table. -/
  | noSuchRow
  /-- The root of the Mono installation is asked for without a path. -/
  | noMonoRoot
  /-- The workspace document is asked for without a path. -/
  | noWorkspacePath
  /-- A condition that has a diagnostic. -/
  | report (diagnostic : Diagnostic)
  deriving DecidableEq, Repr

namespace Failure

/-- The wording of a failure, where it has one. -/
def message : Failure → String
  | .file fault path => s!"[Errno {fault.number}] {fault.text}: {quoted path}"
  | .nulInPath => "embedded null byte"
  | .oversizedNumeral digits =>
    "Exceeds the limit (4300 digits) for integer string conversion: "
      ++ s!"value has {digits} digits; use sys.set_int_max_str_digits() to increase the limit"
  | .notUtf8 => ""
  | .assembliesNotListed => ""
  | .frameworkName fault text => fault.describe text
  | .blob fault => fault.text
  | .noSuchRow => ""
  | .noMonoRoot => ""
  | .noWorkspacePath => ""
  | .report d => d.message

/-- Whether the failure is a refusal by the file system. -/
def isFileFault : Failure → Bool
  | .file .. => true
  | _ => false

end Failure

end FSharpFlags
