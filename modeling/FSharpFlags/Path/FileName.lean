/-!
# File names in either separator style

Hint paths and item paths come from project files that are written on any system, so their last
component is taken with both `/` and `\` as separators, after a drive (`C:`) or a network share
(`\\server\share`), either of them also in the extended spelling that begins with `\\?\`. Such a
path is absolute where it begins at the root of the drive or of the share.
-/

namespace FSharpFlags

namespace FileName

/-- The characters with every separator written as a backslash. -/
def backslashed (cs : List Char) : List Char := cs.map fun c ↦ if c = '/' then '\\' else c

/-- Removes the marker of an extended path; a share after it is brought to its usual spelling. -/
def withoutMarker : List Char → List Char
  | '\\' :: '\\' :: '?' :: '\\' :: 'U' :: 'N' :: 'C' :: '\\' :: rest => '\\' :: '\\' :: rest
  | '\\' :: '\\' :: '?' :: '\\' :: rest => rest
  | cs => cs

/-- What follows `\\server\share`, when the characters begin with a share. -/
def afterShare? (cs : List Char) : Option (List Char) :=
  match cs with
  | '\\' :: '\\' :: rest =>
    match rest.dropWhile (· ≠ '\\') with
    | _ :: mount =>
      if rest.head? = some '\\' || mount.head? = some '\\' then none
      else some (mount.dropWhile (· ≠ '\\'))
    | [] => none
  | _ => none

/-- What follows a drive, or everything when there is none. -/
def afterDrive : List Char → List Char
  | letter :: ':' :: rest => if letter.isAlpha then rest else letter :: ':' :: rest
  | cs => cs

/-- Whether the characters begin with a drive. -/
def hasDrive : List Char → Bool
  | letter :: ':' :: _ => letter.isAlpha
  | _ => false

/-- Whether the characters begin with the marker of an extended path. -/
def hasMarker : List Char → Bool
  | '\\' :: '\\' :: '?' :: '\\' :: _ => true
  | _ => false

/-- Whether a path begins at the root of a drive or of a share. -/
def isAbsolute (cs : List Char) : Bool :=
  let marked := backslashed cs
  let plain := withoutMarker marked
  (afterShare? plain).isSome
    || ((hasMarker marked || hasDrive plain) && (afterDrive plain).head? = some '\\')

/-- The part of a path that lies beneath its drive or share. -/
def beneath (cs : List Char) : List Char :=
  let plain := withoutMarker (backslashed cs)
  (afterShare? plain).getD (afterDrive plain)

/-- The last component that is neither empty nor `.`. -/
def lastPart (cs : List Char) : List Char :=
  (((cs.splitOn '\\').filter fun piece ↦ piece ≠ [] && piece ≠ ['.']).getLast?).getD []

end FileName

/-- The last component of a path written in either separator style. -/
def fileNameOf (path : String) : String :=
  String.ofList (FileName.lastPart (FileName.beneath path.toList))

end FSharpFlags
