import FSharpFlags.Proofs.PathText
import FSharpFlags.Workspace.Document

/-!
# The normal form of a path is normal

The components of a path are pushed on a stack, and a `..` cancels what it can. On a reduced stack
nothing is left to cancel: every component stands where pushing it on those below puts it. Pushing
keeps a stack reduced, and pushing the components of a reduced stack once more, from the bottom,
gives it back. So the normal form of a path is its own normal form.

For a text this takes two more steps, for between the two normal forms the first one is written and
read again. What was read has components that survive this, and the normal form of a path has no
others.
-/

namespace FSharpFlags

namespace Path

variable {anchored : Bool} {stack parts : List String} {p : Path}

/-! ## Reduced stacks -/

/-- Whether every component of a stack stands where pushing it on those below puts it. -/
def IsReduced (anchored : Bool) : List String → Prop
  | [] => True
  | part :: below => push anchored below part = part :: below ∧ IsReduced anchored below

theorem IsReduced.push (h : IsReduced anchored stack) (part : String) :
    IsReduced anchored (push anchored stack part) := by
  by_cases hup : part = ".."
  · subst hup
    cases stack with
    | nil =>
      cases anchored with
      | true => trivial
      | false => exact ⟨rfl, trivial⟩
    | cons top below =>
      by_cases htop : top = ".."
      · subst htop
        exact ⟨rfl, h⟩
      · rw [Path.push, if_pos rfl]
        show IsReduced anchored (if top = ".." then _ else below)
        rw [if_neg htop]
        exact h.2
  · rw [push_of_ne hup]
    exact ⟨push_of_ne hup, h⟩

theorem IsReduced.foldl_push (h : IsReduced anchored stack) (parts : List String) :
    IsReduced anchored (parts.foldl (Path.push anchored) stack) := by
  induction parts generalizing stack with
  | nil => exact h
  | cons part rest ih => exact ih (h.push part)

/-- Pushing the components of a reduced stack, from the bottom, gives the stack. -/
theorem IsReduced.foldl_push_reverse (h : IsReduced anchored stack) :
    stack.reverse.foldl (Path.push anchored) [] = stack := by
  induction stack with
  | nil => rfl
  | cons part below ih =>
    rw [List.reverse_cons, List.foldl_append, ih h.2]
    exact h.1

theorem mem_of_mem_push {part x : String} (h : x ∈ push anchored stack part) :
    x = part ∨ x ∈ stack := by
  unfold push at h
  grind

theorem mem_of_mem_foldl_push {x : String} (h : x ∈ parts.foldl (push anchored) stack) :
    x ∈ parts ∨ x ∈ stack := by
  induction parts generalizing stack with
  | nil => exact .inr h
  | cons part rest ih =>
    rcases ih h with hrest | hpush
    · exact .inl (List.mem_cons_of_mem _ hrest)
    · rcases mem_of_mem_push hpush with rfl | hstack
      · exact .inl List.mem_cons_self
      · exact .inr hstack

/-! ## Normal paths -/

/-- **The normal form of a path is its own normal form.** -/
theorem normal_normal (p : Path) : p.normal.normal = p.normal := by
  have hempty : IsReduced p.isAbsolute [] := trivial
  have hparts := (hempty.foldl_push p.parts).foldl_push_reverse
  rw [normal, isAbsolute_normal]
  simp only [normal, hparts]

/-- The components of the normal form are among those of the path. -/
theorem IsRead.normal (h : p.IsRead) : p.normal.IsRead := by
  intro part hpart
  have hmem := mem_of_mem_foldl_push (List.mem_reverse.mp hpart)
  exact h part (hmem.resolve_right List.not_mem_nil)

theorem normalPath_text_normal (h : p.IsRead) : normalPath p.normal.text = p.normal.text := by
  rw [normalPath, parse_text h.normal, normal_normal]

/-- The normal form of a path text is its own normal form. -/
theorem normalPath_normalPath (path : String) : normalPath (normalPath path) = normalPath path :=
  normalPath_text_normal (isRead_parse path)

/-! ## Located paths -/

theorem normalPath_located {base : Path} (h : base.IsRead) (text : String) :
    normalPath (base.located text) = base.located text :=
  normalPath_text_normal (h.child text)

end Path

end FSharpFlags
