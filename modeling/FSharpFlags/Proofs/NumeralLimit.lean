import FSharpFlags.Json.Parser
import FSharpFlags.Proofs.DocumentReading

/-!
# Whole numbers with too many digits

A text can be written as JSON should be and still not be read: a whole number with more digits than
the reader takes is refused, and the refusal is not a fault of the text that has a place in it.

Not every such row of digits in a text is refused. The machine stops at the first fault, and where
no value is expected a row of digits is itself the fault. What counts are the rows that the machine
converts, one where a value may begin at a time, until it stops.
-/

namespace FSharpFlags

namespace Json

namespace Machine

variable {m : Machine} {t : Placed} {ts : List Placed} {ds : List Char} {failure : Failure}

/-- Whether a value may begin now. -/
def awaitsValue : Machine → Bool
  | .value _ | .firstItem _ => true
  | _ => false

/-- The row of digits that the machine converts when it meets a token. -/
def numeral? (m : Machine) : Token → Option (List Char)
  | .digits _ ds => if m.awaitsValue then some ds else none
  | _ => none

/-- The rows of digits that the machine converts until it stops. -/
def numerals (m : Machine) : List Placed → List (List Char)
  | [] => []
  | t :: rest =>
    (m.numeral? t.token).toList ++
      match m.step t with
      | .ok next => next.numerals rest
      | .error _ => []

theorem read_eq_error_iff :
    Numeral.read ds = .error failure
      ↔ Numeral.digitLimit < ds.length ∧ failure = .oversizedNumeral ds.length := by
  unfold Numeral.read
  split_ifs with h <;> simp [h, eq_comm]

end Machine

/-- The rows of digits that are converted in reading a text. -/
def numerals (cs : List Char) : List (List Char) :=
  if cs.head? = some '\uFEFF' then [] else Machine.numerals (.value []) (tokens 0 cs)

end Json

end FSharpFlags
