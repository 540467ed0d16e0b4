import FSharpFlags.Assembly.Portability
import FSharpFlags.Core.Assembly
import FSharpFlags.Project.Collection

/-!
# Facades

A project that is not portable but uses portable code, by way of a project or of an assembly that
it refers to, also needs the runtime's facades. Projects are asked first, since they answer
without a look at any file.
-/

namespace FSharpFlags

namespace Project

/-- Whether the project uses portable code. -/
def needsFacades (fs : FileSystem) (p : Project) (selection : Selection) (inspector : Inspector) :
    Attempt Bool := do
  if (p.neighbours selection).any (·.isPortable) then return true
  else
    let paths ← p.collect fs selection (· = .assembly)
    inspector.anyPortable paths

/-- The runtime's facades for the project's framework, without those for core assemblies. -/
def facades (p : Project) : Attempt (List String) := do
  Attempt.note .askedFacades
  let all ← p.runtime.facades p.framework
  return all.filter fun path ↦ !isExcludedFacade path

/-- The facades that apply to the project. -/
def applicableFacades (fs : FileSystem) (p : Project) (selection : Selection)
    (inspector : Inspector) : Attempt (List String) := do
  if p.isPortable then return []
  else if ← p.needsFacades fs selection inspector then p.facades
  else return []

end Project

end FSharpFlags
