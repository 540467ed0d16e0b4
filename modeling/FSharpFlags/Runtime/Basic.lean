import FSharpFlags.Framework.Moniker

/-!
# Target runtimes

A runtime is known by what it answers: which frameworks it lists and has installed, where its
tools and reference assemblies lie, and which facades it offers for a framework. Only the answers
that need a look at directories can fail.
-/

namespace FSharpFlags

/-- The answers of an installed runtime. -/
structure TargetRuntime where
  /-- The frameworks that the runtime lists. -/
  frameworks : Except Failure (List FrameworkDescriptor)
  /-- Whether a framework is installed. -/
  isInstalled : FrameworkDescriptor → Except Failure Bool
  /-- The directories of the tools for a framework. -/
  toolDirectories : Moniker → List String
  /-- The roots of the reference assemblies. -/
  referenceDirectories : List String
  /-- The facade assemblies for a framework. -/
  facades : Moniker → Except Failure (List String)

end FSharpFlags
