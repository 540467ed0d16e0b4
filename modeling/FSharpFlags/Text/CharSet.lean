/-!
# Sets of characters

The properties of characters that the text rules ask about (blank, digit, printable, cased) are
unions of a few ranges of code points. A set is the list of its ranges and membership is one
comparison per range, so a question about a whole property is a finite question about the list.
-/

namespace FSharpFlags

/-- A set of characters, as closed ranges of code points. -/
structure CharSet where
  /-- First and last code point of each range. -/
  ranges : List (Nat × Nat)

namespace CharSet

/-- Whether a character lies in one of the ranges. -/
def contains (s : CharSet) (c : Char) : Bool :=
  s.ranges.any fun r ↦ decide (r.1 ≤ c.toNat) && decide (c.toNat ≤ r.2)

theorem contains_iff (s : CharSet) (c : Char) :
    s.contains c = true ↔ ∃ r ∈ s.ranges, r.1 ≤ c.toNat ∧ c.toNat ≤ r.2 := by
  simp [contains]

end CharSet

end FSharpFlags
