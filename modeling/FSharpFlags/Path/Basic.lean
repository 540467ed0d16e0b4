/-!
# Paths

A path is an anchor and a list of components. Reading a path text collapses repeated separators
and drops the components that are `.`, but keeps `..`, since what `..` leads to is known only to
the file system. A text that begins with exactly two separators keeps both of them; any other
number of leading separators counts as one.
-/

namespace FSharpFlags

/-- Where a path starts. -/
inductive Anchor where
  /-- At the current directory. -/
  | relative
  /-- At the root. -/
  | root
  /-- At the root, written with two separators. -/
  | doubleRoot
  deriving DecidableEq, Repr

/-- The separators that an anchor is written with. -/
def Anchor.text : Anchor → String
  | .relative => ""
  | .root => "/"
  | .doubleRoot => "//"

/-- A path. -/
structure Path where
  /-- Where the path starts. -/
  anchor : Anchor
  /-- The components, outermost first. -/
  parts : List String
  deriving DecidableEq, Repr

namespace Path

/-- The anchor that a number of leading separators stands for. -/
def anchorOf : Nat → Anchor
  | 0 => .relative
  | 2 => .doubleRoot
  | _ => .root

/-- Whether a piece between separators is a component: it is neither empty nor `.`. -/
def isPart (piece : List Char) : Bool := piece ≠ [] && piece ≠ ['.']

/-- Reads a path text. -/
def parse (text : String) : Path where
  anchor := anchorOf (text.toList.takeWhile (· = '/')).length
  parts := ((text.toList.splitOn '/').filter isPart).map String.ofList

/-- The text of a path; the path without anchor and components is written `.`. -/
def text (p : Path) : String :=
  if p.anchor = .relative ∧ p.parts = [] then "." else p.anchor.text ++ "/".intercalate p.parts

/-- Whether the path starts at the root. -/
def isAbsolute (p : Path) : Bool := p.anchor ≠ .relative

/-- The second path seen from the first. -/
def join (p q : Path) : Path :=
  if q.isAbsolute then q else { p with parts := p.parts ++ q.parts }

/-- The path read from a text, seen from the given one. -/
def child (p : Path) (text : String) : Path := p.join (parse text)

/-- The path extended by one component, which is not read as a text. -/
def entry (p : Path) (name : String) : Path := { p with parts := p.parts ++ [name] }

/-- The path without its last component. -/
def parent (p : Path) : Path := { p with parts := p.parts.dropLast }

/-- The last component, empty when there is none. -/
def name (p : Path) : String := p.parts.getLast?.getD ""

/-- The path seen from the current directory. -/
def absolute (currentDirectory : String) (p : Path) : Path := (parse currentDirectory).join p

/-- The end of a name from its last dot on, unless that dot is the first or the last character. -/
def suffixOf (name : List Char) : List Char :=
  let ending := name.reverse.takeWhile (· ≠ '.')
  let beforeDot := name.reverse.drop (ending.length + 1)
  if ending.isEmpty || beforeDot.isEmpty then [] else '.' :: ending.reverse

/-- The suffix of the last component. -/
def suffix (p : Path) : String := String.ofList (suffixOf p.name.toList)

@[simp] theorem isAbsolute_iff (p : Path) : p.isAbsolute = true ↔ p.anchor ≠ .relative := by
  simp [isAbsolute]

theorem join_of_relative {p q : Path} (h : q.anchor = .relative) :
    p.join q = { p with parts := p.parts ++ q.parts } := by
  simp [join, isAbsolute, h]

theorem isAbsolute_join_of_left {p q : Path} (h : p.isAbsolute = true) :
    (p.join q).isAbsolute = true := by
  unfold join
  split
  · assumption
  · simpa [isAbsolute] using h

theorem parent_entry (p : Path) (name : String) : (p.entry name).parent = p := by
  simp [entry, parent]

end Path

end FSharpFlags
