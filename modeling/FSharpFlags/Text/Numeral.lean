import FSharpFlags.Failure

/-!
# Decimal numerals

A numeral is a non-empty row of ASCII digits, leading zeros allowed. Reading one is refused only
when it has more digits than the reader takes; writing is core's `Nat.repr`, which reading undoes.
-/

namespace FSharpFlags

namespace Numeral

/-- The most digits that are read. -/
def digitLimit : Nat := 4300

/-- Whether the characters form a numeral. -/
def isNumeral (cs : List Char) : Bool := !cs.isEmpty && cs.all Char.isDigit

/-- The number that a row of digits stands for. -/
def value (ds : List Char) : Nat := Nat.ofDigitChars 10 ds 0

/-- Reads a row of digits of admissible length. -/
def read (ds : List Char) : Except Failure Nat :=
  if digitLimit < ds.length then .error (.oversizedNumeral ds.length) else .ok (value ds)

theorem value_toDigits (n : Nat) : value (Nat.toDigits 10 n) = n := by
  simp [value]

theorem isNumeral_toDigits (n : Nat) : isNumeral (Nat.toDigits 10 n) = true := by
  simp only [isNumeral, Bool.and_eq_true, List.all_eq_true]
  exact ⟨by simp [Nat.toDigits_ne_nil],
    fun c hc ↦ Nat.isDigit_of_mem_toDigits (by decide) (by decide) hc⟩

end Numeral

end FSharpFlags
