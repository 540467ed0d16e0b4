import FSharpFlags.Assembly.Reference
import FSharpFlags.Attempt
import FSharpFlags.Framework.Name

/-!
# Portable assemblies

An assembly is portable when it was compiled against a restricted profile: its reference table has
a row for the `System.Runtime` facade, or its target framework names a profile. The framework is
asked for only when the table does not settle the question.

The two kinds of failure are answered differently. An assembly whose table cannot be read is not
portable. An assembly whose table was read and whose framework then cannot be fetched from the
file system is taken for a profile-only stub, so it is portable.
-/

namespace FSharpFlags

/-- The facade that portable assemblies refer to. -/
def systemRuntime : String := "System.Runtime"

/-- Whether the text of a target framework names a profile. -/
def namesProfile (text : String) : Bool :=
  match FrameworkName.parse text with
  | .ok name => !name.profile.isEmpty
  | .error _ => false

namespace Inspector

/-- Asks for the reference table of a file. -/
def askReferences (inspector : Inspector) (path : String) :
    Attempt (Reading (List AssemblyReference)) := do
  Attempt.note (.askedReferences path)
  return inspector.references path

/-- Asks for the target framework of a file. -/
def askFramework (inspector : Inspector) (path : String) : Attempt (Reading (Option String)) := do
  Attempt.note (.askedFramework path)
  return inspector.framework path

/-- Whether the target framework of a file makes it portable. -/
def frameworkIsPortable (inspector : Inspector) (path : String) : Attempt Bool := do
  match ← inspector.askFramework path with
  | .inaccessible _ =>
    Attempt.note (.attributesUnread path)
    return true
  | .ok (some text) => return namesProfile text
  | _ => return false

/-- Whether an assembly is portable. -/
def isPortable (inspector : Inspector) (path : String) : Attempt Bool := do
  match ← inspector.askReferences path with
  | .ok rows =>
    if rows.any (·.name = systemRuntime) then return true
    else inspector.frameworkIsPortable path
  | failed =>
    Attempt.note (.referencesUnread path failed.status)
    return false

/-- Whether one of the assemblies is portable; the first that is ends the search. -/
def anyPortable (inspector : Inspector) : List String → Attempt Bool
  | [] => return false
  | path :: rest => do
    if ← inspector.isPortable path then return true else inspector.anyPortable rest

end Inspector

end FSharpFlags
