import FSharpFlags.Runtime.Basic

/-!
# Selecting a framework

The default framework of a runtime is its newest installed desktop framework. The selection walks
the list once with the best candidate so far, starting from the first entry of the list, whatever
it is, at version zero; a candidate must be installed, a desktop framework and really newer.
-/

namespace FSharpFlags

namespace TargetRuntime

/-- The best candidate so far with the version that it was chosen for. -/
abbrev Best := FrameworkDescriptor × Version

/-- Meets one more candidate. -/
def consider (runtime : TargetRuntime) (best : Best) (candidate : FrameworkDescriptor) :
    Except Failure Best := do
  if ← runtime.isInstalled candidate then
    if candidate.moniker.identifier = Moniker.desktop then
      let version ← candidate.moniker.parsedVersion
      if Version.prefers version best.2 then return (candidate, version) else return best
    else return best
  else return best

/-- The default framework of a runtime. -/
def defaultFramework (runtime : TargetRuntime) : Except Failure FrameworkDescriptor := do
  match ← runtime.frameworks with
  | [] => throw (.report { kind := .noFrameworks })
  | first :: rest => return (← (first :: rest).foldlM (consider runtime) (first, [0])).1

end TargetRuntime

end FSharpFlags
