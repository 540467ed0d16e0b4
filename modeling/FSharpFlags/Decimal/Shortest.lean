import FSharpFlags.Decimal.Binary64

/-!
# Shortest decimals

The digits shown for a number are the fewest that still read back as it, and among those the
nearest to it. A decimal reads back as the number when it lies in the interval of reals that round
to it; the ends belong to the interval when the significand is even. For each count of digits only
the two neighbours of the number on the decimal grid need to be looked at, of which the even one is
taken when both are equally near, and seventeen digits always suffice.
-/

namespace FSharpFlags

/-- A decimal: digits and the place of the point counted from their front. -/
structure Decimal where
  /-- The digits, without zeros at the end. -/
  digits : List Char
  /-- How many digits stand before the point; the number is `0.digits * 10 ^ point`. -/
  point : Int
  deriving DecidableEq, Repr

namespace Decimal

/-- The number of digits before the point of a positive number `significand * 2 ^ exponent`; zero
or negative for numbers below one tenth. -/
def magnitude (significand : Nat) (exponent : Int) : Int :=
  let numerator := significand * Nat.pow 2 exponent.toNat
  let denominator := Nat.pow 2 (-exponent).toNat
  let whole := numerator / denominator
  if whole = 0 then
    let reaches := fun (shift : Nat) ↦ decide (denominator ≤ numerator * Nat.pow 10 shift)
    1 - (((List.range 400).find? reaches).getD 0 : Int)
  else (Nat.toDigits 10 whole).length

/-- A decimal whose digits are those of a number, shifted. -/
def ofNat (n : Nat) (shift : Int) : Decimal :=
  let digits := Nat.toDigits 10 n
  ⟨(digits.reverse.dropWhile (· = '0')).reverse, digits.length + shift⟩

/-- The better neighbour of the number on the grid of `10 ^ shift`, if one reads back; of two
equally near ones, the even one. Everything is multiplied by a common factor that makes it
whole. -/
def onGrid? (significand : Nat) (exponent shift : Int) : Option Nat :=
  let twos := (-exponent).toNat + 2
  let tens := (-shift).toNat
  let gap := Nat.pow 2 (exponent + twos).toNat * Nat.pow 10 tens
  let value := significand * gap
  let step := Nat.pow 10 (shift + tens).toNat * Nat.pow 2 twos
  let isFirst := significand = Binary64.leastFull && Binary64.minExponent < exponent
  let below := if isFirst then gap / 4 else gap / 2
  let above := gap / 2
  let fits := fun (distance limit : Nat) ↦
    distance < limit || (distance = limit && significand % 2 = 0)
  let floor := value / step
  let down := value - floor * step
  let up := (floor + 1) * step - value
  match fits down below && 0 < floor, fits up above with
  | true, true => some (if up < down || (up = down && floor % 2 = 1) then floor + 1 else floor)
  | true, false => some floor
  | false, true => some (floor + 1)
  | false, false => none

/-- The shortest decimal of the positive number `significand * 2 ^ exponent`. -/
def shortest (significand : Nat) (exponent : Int) : Decimal :=
  let magnitude := magnitude significand exponent
  let tries := (List.range 17).filterMap fun (n : Nat) ↦
    let shift := magnitude - (n + 1)
    (onGrid? significand exponent shift).map (ofNat · shift)
  tries.head?.getD ⟨[], 0⟩

end Decimal

end FSharpFlags
