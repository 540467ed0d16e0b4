/-!
# Assembly references

What one assembly says about another: a name, a four-part version, a culture and a public key
token. Reading them from a file has one of three outcomes: the file could not be read, its bytes
are no usable metadata, or here they are. The first two are kept apart because portability
answers them differently.
-/

namespace FSharpFlags

/-- The four parts of an assembly version. -/
structure AssemblyVersion where
  major : Nat := 0
  minor : Nat := 0
  build : Nat := 0
  revision : Nat := 0
  deriving DecidableEq, Repr

/-- The version with dots between its parts. -/
def AssemblyVersion.text (v : AssemblyVersion) : String :=
  ".".intercalate [v.major.repr, v.minor.repr, v.build.repr, v.revision.repr]

/-- A reference from one assembly to another. -/
structure AssemblyReference where
  /-- The simple name of the assembly. -/
  name : String
  /-- The version asked for. -/
  version : AssemblyVersion := {}
  /-- The culture, empty for none. -/
  culture : String := ""
  /-- The public key token in hexadecimal, empty for an unsigned assembly. -/
  keyToken : String := ""
  deriving DecidableEq, Repr

/-- The outcome of reading something from an assembly file. -/
inductive Reading (α : Type) where
  /-- It was read. -/
  | ok (value : α)
  /-- The bytes of the file could not be had. -/
  | inaccessible (detail : String)
  /-- The bytes are not usable. -/
  | unreadable (detail : String)
  deriving Repr

namespace Reading

variable {α : Type}

/-- The name of the outcome. -/
def status : Reading α → String
  | .ok _ => "ok"
  | .inaccessible _ => "io-error"
  | .unreadable _ => "unreadable"

/-- What is known about a failed reading. -/
def detail : Reading α → String
  | .ok _ => ""
  | .inaccessible detail => detail
  | .unreadable detail => detail

/-- What was read. -/
def value? : Reading α → Option α
  | .ok value => some value
  | _ => none

/-- Whether something was read. -/
def isOk : Reading α → Bool
  | .ok _ => true
  | _ => false

end Reading

/-- Answers questions about assembly files. -/
structure Inspector where
  /-- The reference table of a file. -/
  references : String → Reading (List AssemblyReference)
  /-- The name of the framework that a file was compiled for; none when it does not say. -/
  framework : String → Reading (Option String)

end FSharpFlags
