import FSharpFlags.Path.Normal
import FSharpFlags.Text.CaseFold

/-!
# Reference keys

Two reference paths denote the same file on a case-insensitive file system when they agree up to
case, the style of separators and what the text alone says about `.` and `..`. The key of a path
is its normal form in that sense.
-/

namespace FSharpFlags

/-- A path text with slashes for backslashes. -/
def slashed (path : String) : String :=
  String.ofList (path.toList.map fun c ↦ if c = '\\' then '/' else c)

/-- The key of a reference path. -/
def referenceKey (path : String) : String := foldCase (normalPath (slashed path))

end FSharpFlags
