import FSharpFlags.Path.Basic

/-!
# Normal paths

The normal form of a path resolves `..` by the text alone: each `..` cancels the component before
it. What cannot be cancelled is dropped at the root and kept at the front of a relative path. The
components are pushed on a stack, innermost on top.
-/

namespace FSharpFlags

namespace Path

/-- Pushes one component, `..` cancelling the one below. -/
def push (anchored : Bool) (stack : List String) (part : String) : List String :=
  if part = ".." then
    match stack with
    | [] => if anchored then [] else [".."]
    | top :: below => if top = ".." then ".." :: stack else below
  else part :: stack

theorem push_of_ne {anchored : Bool} {stack : List String} {part : String} (h : part ≠ "..") :
    push anchored stack part = part :: stack := by
  simp [push, h]

/-- The path with `..` resolved by the text alone. -/
def normal (p : Path) : Path :=
  { p with parts := (p.parts.foldl (push p.isAbsolute) []).reverse }

@[simp] theorem anchor_normal (p : Path) : p.normal.anchor = p.anchor := rfl

theorem isAbsolute_normal (p : Path) : p.normal.isAbsolute = p.isAbsolute := rfl

end Path

/-- The normal form of a path text. -/
def normalPath (text : String) : String := (Path.parse text).normal.text

end FSharpFlags
