import FSharpFlags.Path.Normal
import Mathlib.Data.List.TakeWhile
import Mathlib.Data.String.Basic

/-!
# Rooted paths

A path text is *rooted* when it begins with a separator. Such a text names the same file wherever
it is read, and the operations on paths keep to that: whatever is appended to an absolute path, and
however far one goes up from it, its text stays rooted.
-/

namespace FSharpFlags

/-- Whether a path text begins at the root. -/
def isRooted (path : String) : Bool := path.toList.head? = some '/'

theorem isRooted_iff {path : String} : isRooted path = true ↔ path.toList.head? = some '/' := by
  rw [isRooted, decide_eq_true_eq]

theorem isRooted_append {front : String} (h : isRooted front = true) (rest : String) :
    isRooted (front ++ rest) = true := by
  rw [isRooted_iff] at h ⊢
  rw [String.toList_append, List.head?_append, h]
  rfl

namespace Path

variable {p : Path}

theorem anchorOf_eq_relative_iff {n : Nat} : anchorOf n = .relative ↔ n = 0 := by
  unfold anchorOf
  split <;> simp_all

/-- Reading a text gives an absolute path exactly when the text is rooted. -/
theorem isAbsolute_parse (text : String) : (parse text).isAbsolute = isRooted text := by
  have hanchor : (parse text).anchor = .relative ↔ text.toList.head? ≠ some '/' := by
    rw [parse, anchorOf_eq_relative_iff, List.length_eq_zero_iff]
    cases text.toList <;> simp
  rw [Bool.eq_iff_iff, isAbsolute_iff, isRooted_iff, Ne, hanchor, not_not]

theorem isRooted_text (h : p.isAbsolute = true) : isRooted p.text = true := by
  rw [isAbsolute_iff] at h
  rw [text, if_neg fun hrelative ↦ h hrelative.1]
  refine isRooted_append ?_ _
  cases hanchor : p.anchor with
  | relative => exact absurd hanchor h
  | root => rfl
  | doubleRoot => rfl

theorem isAbsolute_parent : p.parent.isAbsolute = p.isAbsolute := rfl

theorem isAbsolute_entry (name : String) : (p.entry name).isAbsolute = p.isAbsolute := rfl

theorem isAbsolute_child (h : p.isAbsolute = true) (text : String) :
    (p.child text).isAbsolute = true :=
  isAbsolute_join_of_left h

theorem isRooted_text_child (h : p.isAbsolute = true) (text : String) :
    isRooted (p.child text).text = true :=
  isRooted_text (isAbsolute_child h text)

/-- Reading a rooted text and spelling it again leaves it rooted. -/
theorem isRooted_text_parse {text : String} (h : isRooted text = true) :
    isRooted (parse text).text = true :=
  isRooted_text (by rw [isAbsolute_parse, h])

end Path

end FSharpFlags
