/-!
# Case mappings as tables

Lower-casing and case folding send most characters to themselves, about fourteen hundred to one
other character and a few to several. Neighbouring characters move by the same distance, all of
them (`A` to `Z`) or every second one (`Ā`, `Ă`, `Ą`, …), so a mapping is a short list of runs
together with the list of the characters that become several.
-/

namespace FSharpFlags

/-- Characters at equal steps that all move by the same distance. -/
structure CaseRun where
  /-- The first code point of the run. -/
  first : Nat
  /-- The last code point of the run. -/
  last : Nat
  /-- The distance between neighbours of the run. -/
  step : Nat
  /-- The code point that the first one is sent to. -/
  image : Nat

/-- The image of a code point of the run. -/
def CaseRun.map? (r : CaseRun) (code : Nat) : Option Nat :=
  if r.first ≤ code ∧ code ≤ r.last ∧ (code - r.first) % r.step = 0 then
    some (r.image + (code - r.first))
  else none

/-- A case mapping. -/
structure CaseTable where
  /-- The characters that become one other character, in ascending order of the runs. -/
  runs : List CaseRun
  /-- The characters that become several, in ascending order. -/
  expansions : List (Nat × List Nat)

/-- What a character becomes; entries beyond the character do not concern it. -/
def CaseTable.map (t : CaseTable) (c : Char) : List Char :=
  match (t.runs.takeWhile (·.first ≤ c.toNat)).findSome? (·.map? c.toNat) with
  | some code => [Char.ofNat code]
  | none =>
    match (t.expansions.takeWhile (·.1 ≤ c.toNat)).lookup c.toNat with
    | some codes => codes.map Char.ofNat
    | none => [c]

end FSharpFlags
