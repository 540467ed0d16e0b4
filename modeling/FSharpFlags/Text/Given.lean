/-!
# Given texts

In settings and documents an empty text means the same as no text at all.
-/

namespace FSharpFlags

/-- The text, unless it is missing or empty. -/
def given (text : Option String) : Option String := text.filter fun t ↦ !t.isEmpty

@[simp] theorem given_none : given none = none := rfl

theorem given_some {text : String} (h : text.isEmpty = false) : given (some text) = some text := by
  simp [given, Option.filter, h]

end FSharpFlags
