/-!
# The two core assemblies

Every compiled output needs two assemblies: the base runtime library and the library that supports
the language. Facades for either are left out wherever facades are used, since the two are looked
up on their own.
-/

namespace FSharpFlags

/-- The library that supports the language. -/
def languageCore : String := "FSharp.Core"

/-- The base library of the runtime. -/
def baseRuntime : String := "mscorlib"

/-- Whether a facade would stand for a core assembly. -/
def isExcludedFacade (path : String) : Bool :=
  (baseRuntime ++ ".dll").toList.isSuffixOf path.toList
    || (languageCore ++ ".dll").toList.isSuffixOf path.toList

end FSharpFlags
