/-!
# Binary floating-point numbers

A finite number of the 64-bit format is a significand of at most 53 bits times a power of two not
below the 1074th negative one. Numbers are read from decimal texts, so the one operation is
rounding a quotient of natural numbers to the nearest representable number, with ties to the even
significand. Everything is exact arithmetic on natural numbers.
-/

namespace FSharpFlags

/-- A number of the 64-bit format. -/
inductive Binary64 where
  /-- The number `significand * 2 ^ exponent` with its sign; zero has a sign too. -/
  | finite (negative : Bool) (significand : Nat) (exponent : Int)
  /-- An infinity. -/
  | infinite (negative : Bool)
  /-- No number. -/
  | notANumber
  deriving DecidableEq, Repr

namespace Binary64

/-- The smallest exponent. -/
def minExponent : Int := -1074

/-- The largest exponent of a full significand. -/
def maxExponent : Int := 971

/-- The least significand that takes all its bits. -/
def leastFull : Nat := Nat.pow 2 52

/-- Zero with a sign. -/
def zero (negative : Bool) : Binary64 := .finite negative 0 minExponent

/-- Whether the number is zero, whatever its sign. -/
def isZero : Binary64 → Bool
  | .finite _ significand _ => significand = 0
  | _ => false

/-- A fraction divided by a power of two, as numerator and denominator. -/
def scaled (numerator denominator : Nat) (exponent : Int) : Nat × Nat :=
  (numerator * Nat.pow 2 (-exponent).toNat, denominator * Nat.pow 2 exponent.toNat)

/-- The integer nearest to a fraction, an even one in case of a tie. -/
def nearest (numerator denominator : Nat) : Nat :=
  let floor := numerator / denominator
  let rest := 2 * (numerator % denominator)
  if rest < denominator then floor
  else if denominator < rest then floor + 1
  else if floor % 2 = 0 then floor
  else floor + 1

/-- The exponent that gives a fraction a full significand, as far as exponents go. -/
def exponentFor (numerator denominator : Nat) : Int :=
  let estimate := (numerator.log2 : Int) - denominator.log2 - 52
  let (n, d) := scaled numerator denominator estimate
  max minExponent (if n / d < leastFull then estimate - 1 else estimate)

/-- The number nearest to a positive fraction. -/
def ofFraction (negative : Bool) (numerator denominator : Nat) : Binary64 :=
  let exponent := exponentFor numerator denominator
  let (n, d) := scaled numerator denominator exponent
  let significand := nearest n d
  let full := significand = 2 * leastFull
  let exponent := if full then exponent + 1 else exponent
  if maxExponent < exponent then .infinite negative
  else .finite negative (if full then leastFull else significand) exponent

/-- The number nearest to `digits * 10 ^ exponent`, where the digits have the given count. Far
outside the range of the format the answer is known without arithmetic. -/
def ofDecimal (negative : Bool) (digits count : Nat) (exponent : Int) : Binary64 :=
  if digits = 0 then zero negative
  else if 400 < exponent + count then .infinite negative
  else if exponent + count < -400 then zero negative
  else ofFraction negative (digits * Nat.pow 10 exponent.toNat) (Nat.pow 10 (-exponent).toNat)

end Binary64

end FSharpFlags
